import Mooring.Proofs.Address.Gateway
import Mooring.Proofs.Text.Columns

/-! Routing tables as the kernel prints them. A route leads to a network, which its destination and
its mask tell; the default route is the one whose network is everything, and it has a gateway where
the other end of the line is not itself the way out. Of all this only the destination is looked at,
so the first route whose network begins at zero is taken for the default one. -/

namespace Mooring.Address

open Text Mooring.Action

namespace V4

variable (a : V4)

/-- The digits of an address, as the kernel writes them. -/
def digits : List Char := (hexDigits 8 a.number).map Char.toUpper

theorem asciiLower_digits : asciiLower a.digits = hexDigits 8 a.number :=
  asciiLower_toUpper_hexDigits 8 a.number

theorem readInt_digits : readInt .sixteen a.digits = .ok a.number :=
  readInt_hexDigits (by decide) a.number_lt a.asciiLower_digits

def word : Word where
  chars := a.digits
  nonempty := ne_nil_of_asciiLower (by decide) a.asciiLower_digits
  unblank := isBlank_of_asciiLower a.asciiLower_digits

theorem digits_zero : zero.digits = defaultDestination := by decide +kernel

theorem digits_injective {a b : V4} (h : a.digits = b.digits) : a = b := by
  have hread := a.readInt_digits
  rw [h, b.readInt_digits] at hread
  have hnumber : b.number = a.number := Int.ofNat_inj.mp (Except.ok.inj hread)
  refine text_injective ?_
  rw [← a.dotted_number, ← b.dotted_number, hnumber]

end V4

/-! ### Rows -/

/-- A row of the table, with any gaps between its fields, further fields, and spaces at its end. -/
structure Row where
  interface : Word
  destination : V4
  gateway : V4
  flags : Word
  references : Word
  uses : Word
  metric : Word
  mask : V4
  more : List (Gap × Word)
  gaps : Fin 7 → Gap
  spaces : Nat

namespace Row

variable (row : Row)

def text : List Char :=
  columns row.interface ([(row.gaps 0, row.destination.word), (row.gaps 1, row.gateway.word),
    (row.gaps 2, row.flags), (row.gaps 3, row.references), (row.gaps 4, row.uses),
    (row.gaps 5, row.metric), (row.gaps 6, row.mask.word)] ++ row.more) ++
    List.replicate row.spaces ' '

/-- The network of a route is everything, and a machine is named that leads there. -/
def IsReal : Prop := row.destination = .zero ∧ row.mask = .zero ∧ row.gateway ≠ .zero

instance : DecidablePred IsReal := fun row =>
  inferInstanceAs (Decidable (row.destination = .zero ∧ row.mask = .zero ∧ row.gateway ≠ .zero))

theorem exists_fields : ∃ more, fields row.text =
    row.interface.chars :: row.destination.digits :: row.gateway.digits :: more := by
  have hspaces : ∀ c ∈ List.replicate row.spaces ' ', isBlank c = true := fun c hc => by
    rw [List.eq_of_mem_replicate hc]
    rfl
  exact ⟨_, fields_columns row.interface _ hspaces⟩

theorem rowGateway?_of_zero (h : row.destination = .zero) :
    rowGateway? row.text = some row.gateway.text := by
  obtain ⟨more, hfields⟩ := row.exists_fields
  rw [h, V4.digits_zero] at hfields
  exact rowGateway?_of_isDefault ⟨_, _, more, hfields, row.gateway.readInt_digits⟩

theorem rowGateway?_of_ne_zero (h : row.destination ≠ .zero) : rowGateway? row.text = none := by
  obtain ⟨more, hfields⟩ := row.exists_fields
  refine rowGateway?_of_isPassed (.elsewhere hfields (fun hdigits => h ?_))
  exact V4.digits_injective (hdigits.trans V4.digits_zero.symm)

theorem text_ne_nil : row.text ≠ [] :=
  List.append_ne_nil_of_left_ne_nil (columns_ne_nil _ _) _

theorem unbroken_text : ∀ c ∈ row.text, isLineBreak c = false := by
  refine List.forall_mem_append.mpr ⟨unbroken_columns _ _, fun c hc => ?_⟩
  rw [List.eq_of_mem_replicate hc]
  rfl

end Row

/-! ### The route that is taken -/

/-- The gateway of the first row whose destination is zero. -/
def taken (rows : List Row) : Option V4 :=
  (rows.find? (fun row => row.destination = V4.zero)).map Row.gateway

/-- The gateway of the first row that is a default route by way of another machine. -/
def meant (rows : List Row) : Option V4 :=
  (rows.find? (fun row => row.IsReal)).map Row.gateway

/-- Rows of which the right one is taken: the first whose destination is zero is a default route, or
one further down has the same gateway. -/
inductive TakesRight : List Row → Prop
  | nil : TakesRight []
  | elsewhere {row : Row} {rows : List Row} (h : row.destination ≠ .zero)
    (hrows : TakesRight rows) : TakesRight (row :: rows)
  | real {row : Row} {rows : List Row} (h : row.IsReal) : TakesRight (row :: rows)
  | alike {row : Row} {rows : List Row} (h : row.destination = .zero)
    (hrows : meant rows = some row.gateway) : TakesRight (row :: rows)

section Cons

variable {row : Row} (rows : List Row)

theorem taken_of_zero (h : row.destination = .zero) : taken (row :: rows) = some row.gateway := by
  rw [taken, List.find?_cons_of_pos (by simpa using h)]
  rfl

theorem taken_of_ne_zero (h : row.destination ≠ .zero) : taken (row :: rows) = taken rows := by
  rw [taken, List.find?_cons_of_neg (by simpa using h), taken]

theorem meant_of_isReal (h : row.IsReal) : meant (row :: rows) = some row.gateway := by
  rw [meant, List.find?_cons_of_pos (by simpa using h)]
  rfl

theorem meant_of_not_isReal (h : ¬ row.IsReal) : meant (row :: rows) = meant rows := by
  rw [meant, List.find?_cons_of_neg (by simpa using h), meant]

end Cons

theorem taken_eq_meant_iff (rows : List Row) : taken rows = meant rows ↔ TakesRight rows := by
  induction rows with
  | nil => exact ⟨fun _ => .nil, fun _ => rfl⟩
  | cons row rows ih =>
    by_cases hzero : row.destination = .zero
    · by_cases hreal : row.IsReal
      · rw [taken_of_zero rows hzero, meant_of_isReal rows hreal]
        exact ⟨fun _ => .real hreal, fun _ => rfl⟩
      · -- the row is taken, while the one that is meant is still to come
        rw [taken_of_zero rows hzero, meant_of_not_isReal rows hreal]
        refine ⟨fun heq => .alike hzero heq.symm, fun h => ?_⟩
        cases h with
        | elsewhere hne => exact absurd hzero hne
        | real h => exact absurd h hreal
        | alike _ hrows => exact hrows.symm
    · have hreal : ¬ row.IsReal := fun h => hzero h.1
      rw [taken_of_ne_zero rows hzero, meant_of_not_isReal rows hreal, ih]
      refine ⟨.elsewhere hzero, fun h => ?_⟩
      cases h with
      | elsewhere _ hrows => exact hrows
      | real h => exact absurd h hreal
      | alike h => exact absurd h hzero

theorem findSome?_rows (rows : List Row) :
    (rows.map Row.text).findSome? rowGateway? = (taken rows).map V4.text := by
  induction rows with
  | nil => rfl
  | cons row rows ih =>
    by_cases hzero : row.destination = .zero
    · rw [List.map_cons, List.findSome?_cons, row.rowGateway?_of_zero hzero,
        taken_of_zero rows hzero]
      rfl
    · rw [List.map_cons, List.findSome?_cons, row.rowGateway?_of_ne_zero hzero,
        taken_of_ne_zero rows hzero]
      exact ih

/-! ### Tables -/

theorem not_isNewline_of_not_isLineBreak {c : Char} (h : isLineBreak c = false) :
    isNewline c = false := by
  refine Bool.eq_false_iff.mpr (fun hnewline => Bool.eq_false_iff.mp h ?_)
  simp only [isNewline, Bool.or_eq_true, beq_iff_eq] at hnewline
  rcases hnewline with rfl | rfl <;> rfl

/-- A heading with rows below it. The last row may be ended like the others or not. -/
structure RouteTable where
  heading : List Char
  unbroken : ∀ c ∈ heading, isNewline c = false
  rows : List Row
  closed : Bool

namespace RouteTable

variable (table : RouteTable)

def ending : List Char := if table.closed then ['\n'] else []

def text : List Char :=
  joinWith ['\n'] (table.heading :: table.rows.map Row.text) ++ table.ending

theorem ending_cases : table.ending = [] ∨ table.ending = ['\n'] := closing_cases table.closed

theorem fileLines_text : (fileLines table.text).drop 1 = table.rows.map Row.text := by
  refine linesAt_joinReturns_headed rfl rfl table.unbroken table.ending_cases
    (List.forall_mem_map.mpr (fun row _ => ⟨row.text_ne_nil, fun c hc => ?_⟩))
  exact not_isNewline_of_not_isLineBreak (row.unbroken_text c hc)

variable {σ : Type} {w : World} {path : String} {table}

theorem defaultGateway_of_rows (hread : w.fileBytes path = .ok (encode table.text)) (s : σ)
    (j : Journal) :
    defaultGateway path w s j = (.ok ((taken table.rows).map V4.text), s, j) := by
  rw [defaultGateway_of_text hread, tableGateway?, table.fileLines_text, findSome?_rows]

/-- The gateway of the first row whose destination is zero is found. It is the gateway of the
default route exactly if the right row was taken: neither a route to half of everything stands above
it nor one that has no gateway, unless that names the same machine. -/
theorem gateway_of_rows (hread : w.fileBytes path = .ok (encode table.text)) (s : σ) (j : Journal) :
    defaultGateway path w s j = (.ok ((taken table.rows).map V4.text), s, j) ∧
      (defaultGateway path w s j = (.ok ((meant table.rows).map V4.text), s, j) ↔
        TakesRight table.rows) := by
  have hrun := defaultGateway_of_rows hread s j
  refine ⟨hrun, ?_⟩
  rw [hrun, ← taken_eq_meant_iff]
  constructor
  · intro heq
    have hfound := Except.ok.inj (congrArg Prod.fst heq)
    exact Option.map_injective (fun _ _ => V4.text_injective) hfound
  · intro heq
    rw [heq]

end RouteTable

def tab : Gap where
  chars := ['\t']
  nonempty := List.cons_ne_nil _ _
  blank := List.forall_mem_singleton.mpr rfl
  unbroken := List.forall_mem_singleton.mpr rfl

def nought : Word := ⟨['0'], List.cons_ne_nil _ _, List.forall_mem_singleton.mpr rfl⟩

/-- A row of an interface that leads everywhere. -/
def everywhere (interface flags : Word) (gateway : V4) : Row where
  interface
  destination := .zero
  gateway
  flags
  references := nought
  uses := nought
  metric := nought
  mask := .zero
  more := []
  gaps := fun _ => tab
  spaces := 0

theorem unbroken_headingLine : ∀ c ∈ headingLine, isNewline c = false := by
  have hlines : headingLine ∈ fileLines bridgeTable := by
    rw [fileLines_bridgeTable]
    exact List.mem_cons_self ..
  exact not_isBreak_of_mem_linesAt hlines

/-- A point-to-point line that leads everywhere without a gateway, in front of the default route of
a bridge. -/
def tunnelTable : RouteTable where
  heading := headingLine
  unbroken := unbroken_headingLine
  rows :=
    [everywhere ⟨"tun0".toList, by decide, by simp [isBlank]⟩
      ⟨"0001".toList, by decide, by simp [isBlank]⟩ .zero,
     everywhere ⟨"eth0".toList, by decide, by simp [isBlank]⟩
      ⟨"0003".toList, by decide, by simp [isBlank]⟩ bridge]
  closed := true

def tunnelText : List Char :=
  ("Iface\tDestination\tGateway \tFlags\tRefCnt\tUse\tMetric\tMask\n" ++
    "tun0\t00000000\t00000000\t0001\t0\t0\t0\t00000000\n" ++
    "eth0\t00000000\t010011AC\t0003\t0\t0\t0\t00000000\n").toList

theorem text_tunnelTable : tunnelTable.text = tunnelText := by
  decide +kernel

theorem fileBytes_tunnel :
    (World.holding (encode tunnelText)).fileBytes routingTable = .ok (encode tunnelTable.text) := by
  rw [text_tunnelTable]
  rfl

/-- The address of no machine is found in the table with the line. -/
theorem gateway_tunnel :
    (World.holding (encode tunnelText)).fileBytes routingTable = .ok (encode tunnelTable.text) ∧
      defaultGateway routingTable (World.holding (encode tunnelText)) () {} =
        (.ok (some "0.0.0.0"), (), {}) := by
  refine ⟨fileBytes_tunnel, ?_⟩
  rw [(RouteTable.gateway_of_rows fileBytes_tunnel () {}).1]
  rfl

/-- The gateway of the bridge is not found behind the line. -/
theorem bridge_missed :
    tunnelTable.text = tunnelText ∧ (meant tunnelTable.rows).map V4.text = some "172.17.0.1" ∧
      defaultGateway routingTable (World.holding (encode tunnelText)) () {} ≠
        (.ok ((meant tunnelTable.rows).map V4.text), (), {}) := by
  refine ⟨text_tunnelTable, rfl, ?_⟩
  rw [RouteTable.defaultGateway_of_rows fileBytes_tunnel]
  intro heq
  exact absurd (Except.ok.inj (congrArg Prod.fst heq)) (by decide)

end Mooring.Address
