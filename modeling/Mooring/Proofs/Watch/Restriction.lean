import Mooring.Proofs.Smooth
import Mooring.Proofs.Watch.Course
import Mooring.Proofs.Watch.Repeated

/-! What a watch may remove. Its sweep lists every kind by the same filters and removes nothing that
was not listed; where the daemon lists only what carries every filter, nothing is removed that lacks
one of the labels that were kept. -/

namespace Mooring

open Mooring.Action

/-- The answers in the journal are those that the world gave. -/
theorem Journal.gives_of_mem {w : World} {j : Journal} {c : Call} {answer : Except Problem c.Answer}
    (h : .asked c answer ∈ j.steps w) : w.Gives c answer := by
  have hall := Event.forall_mem_stepsIn (w := w)
    (p := fun x => ∀ c answer, x = .asked c answer → w.Gives c answer)
    (fun past e c answer he => by
      cases e with
      | called c' =>
        cases he
        exact ⟨past, rfl⟩
      | logged level message fields => cases he
      | shown what => cases he) [] j.events
  exact hall _ h c answer rfl

/-- Whatever the world lists by some filters carries every one of them. -/
def World.Honours (w : World) (carries : ResourceKind → ResourceId → String → Prop) : Prop :=
  ∀ k filters past kind ids, w.listing k filters past kind = .ok ids →
    ∀ id ∈ ids, ∀ text ∈ filters, carries kind id text

namespace Sweep

variable {w : World} {k k' : Client} {filters filters' : List String} {kind kind' : ResourceKind}
  {id id' : ResourceId} {count : SweepCount} {steps : List Step}

/-! ### Listings and removals -/

theorem listing_of_gives {ids : List ResourceId} {j : Journal}
    (h : listed k filters (.ok ids) kind ∈ j.steps w) :
    ∃ past, w.listing k filters past kind = .ok ids := by
  cases kind <;> exact Journal.gives_of_mem h

/-- What is removed in dealing with a resource is that resource. -/
theorem eq_of_deals {r : Except Fault SweepCount} (h : Deals w k kind count id steps r)
    {answer : Except Problem Unit} (hx : removed k' id' answer kind' ∈ steps) :
    id' = id ∧ kind' = kind := by
  have same {answer' : Except Problem Unit}
      (heq : removed k' id' answer kind' = removed k id answer' kind) :
      id' = id ∧ kind' = kind := by
    obtain ⟨-, hid, -, hkind⟩ := removed_inj heq
    exact ⟨hid, hkind⟩
  cases h with
  | settled h =>
    rcases List.mem_cons.mp hx with heq | hwarned
    · exact same heq
    · cases kind' <;> cases isLine_of_mem_warning hwarned
  | failed h hp => exact same (List.mem_singleton.mp hx)

/-- What is removed of a kind was on its list. -/
theorem exists_listed_of_dealsKind {r : Except Fault SweepCount}
    (h : DealsKind w k filters count kind steps r) {answer : Except Problem Unit}
    (hx : removed k' id answer kind' ∈ steps) :
    ∃ ids, id ∈ ids ∧ listed k filters (.ok ids) kind' ∈ steps := by
  cases h with
  | unlisted h => exact absurd (List.mem_singleton.mp hx) (removed_ne_listed _ _)
  | @listed ids rest r h =>
    rcases List.mem_cons.mp hx with heq | hx
    · exact absurd heq (removed_ne_listed _ _)
    · obtain ⟨id', hid', _, part, _, hdeals, hx, -⟩ := h.exists_part hx
      obtain ⟨rfl, rfl⟩ := eq_of_deals hdeals hx
      exact ⟨ids, hid', List.mem_cons_self⟩

theorem exists_listed_of_folds {r : Except Fault SweepCount}
    (h : Folds (DealsKind w k filters) {} kinds steps r) {answer : Except Problem Unit}
    (hx : removed k' id answer kind ∈ steps) :
    ∃ ids, id ∈ ids ∧ listed k filters (.ok ids) kind ∈ steps := by
  obtain ⟨_, -, _, part, _, hdeals, hx, hsub⟩ := h.exists_part hx
  obtain ⟨ids, hid, hlisted⟩ := exists_listed_of_dealsKind hdeals hx
  exact ⟨ids, hid, hsub hlisted⟩

/-- What a sweep removes was listed by its filters. -/
theorem exists_listed {r : Except Fault SweepCount} (h : Sweeps w k filters steps r)
    {answer : Except Problem Unit} (hx : removed k' id answer kind ∈ steps) :
    ∃ ids, id ∈ ids ∧ listed k filters (.ok ids) kind ∈ steps := by
  cases h with
  | failed h => exact exists_listed_of_folds h hx
  | finished h =>
    rcases List.mem_append.mp hx with hx | hx
    · obtain ⟨ids, hid, hlisted⟩ := exists_listed_of_folds h hx
      exact ⟨ids, hid, List.mem_append_left _ hlisted⟩
    · cases kind <;> cases List.mem_singleton.mp hx

theorem eq_of_listed {r : Except Fault SweepCount} (h : Sweeps w k filters steps r)
    {answer : Except Problem (List ResourceId)} (hx : listed k' filters' answer kind ∈ steps) :
    filters' = filters := by
  have hsweeping := h.sweeping _ hx
  generalize he : listed k' filters' answer kind = x at hsweeping
  cases hsweeping with
  | listed answer' kind' => exact (listed_inj he).2.1
  | removed id answer' kind' => exact absurd he.symm (removed_ne_listed _ _)
  | line hline => cases hline; cases kind <;> cases he

/-- A sweep that comes to its end has listed every kind. -/
theorem listed_of_finished (h : Sweeps w k filters steps (.ok count)) (kind : ResourceKind) :
    ∃ ids, listed k filters (.ok ids) kind ∈ steps := by
  cases h with
  | finished h =>
    have hkind : kind ∈ kinds := by cases kind <;> decide
    obtain ⟨_, _, part, hdeals, hsub⟩ := h.exists_of_mem hkind
    cases hdeals with
    | listed => exact ⟨_, List.mem_append_left _ (hsub List.mem_cons_self)⟩

end Sweep

namespace Watch

open CommandLine

variable {σ : Type} {w : World} {filters texts : List String} {labels : Record String}
  {steps : List Step}

/-! ### The steps of a watch -/

/-- A step of a watch that is none of its sweep. -/
def isBeside : Step → Bool
  | .asked (.readInput _) _ | .asked .clientFromEnvironment _ | .asked (.client _ .close) _
  | .wrote _ _ _ => true
  | _ => false

theorem isBeside_listed (k : Client) (filters : List String)
    (answer : Except Problem (List ResourceId)) (kind : ResourceKind) :
    isBeside (Sweep.listed k filters answer kind) = false := by
  cases kind <;> rfl

theorem isBeside_removed (k : Client) (id : ResourceId) (answer : Except Problem Unit)
    (kind : ResourceKind) : isBeside (Sweep.removed k id answer kind) = false := by
  cases kind <;> rfl

/-- The steps of a watch: those of a sweep by the filters, if it comes to one, between others. -/
inductive Watches (w : World) (filters : List String) : List Step → Except Fault Unit → Prop
  | unswept {steps : List Step} {fault : Fault} (h : ∀ x ∈ steps, isBeside x = true) :
    Watches w filters steps (.error fault)
  | swept {before swept after : List Step} {k : Client} {r : Except Fault SweepCount}
    {r' : Except Fault Unit} (hbefore : ∀ x ∈ before, isBeside x = true)
    (h : Sweep.Sweeps w k filters swept r) (hafter : ∀ x ∈ after, isBeside x = true)
    (hr : r' = .ok () → ∃ count, r = .ok count) :
    Watches w filters (before ++ (swept ++ after)) r'

theorem takes_awaitEnd (sizes : List Nat) :
    Takes w (.all isBeside) (fun _ : σ => True) (awaitEnd sizes) := by
  induction sizes with
  | nil => exact .tell (fun _ => rfl)
  | cons size sizes ih => exact .bind (.tell (fun _ => rfl)) (fun _ => .ite (.pure _) ih)

/-- A client, once there is one, is closed after its sweep, and what became of the sweep comes out
unless the closing fails. -/
theorem sweepAndClose_does (k : Client) (labels : Record Value) (s : σ) :
    Does w (do
      let swept ← attempt (Sweep.run k labels)
      onClient k .close
      let _ ← ofResult swept
      return) s (fun steps r _ => ∃ swept count after,
        Sweep.Sweeps w k (Session.labelFilters labels) swept count ∧
        (∀ x ∈ after, isBeside x = true) ∧ steps = swept ++ after ∧
        (r = .ok () → ∃ n, count = .ok n)) := by
  refine (Sweep.run_does labels s).attempt ?_
  rintro swept count _ ⟨hsweeps, rfl⟩
  have closed (answer : Except Problem Unit) :
      ∀ x ∈ [Step.asked (.client k .close) answer], isBeside x = true :=
    List.forall_mem_singleton.mpr rfl
  refine .ask (fun _ _ => ?_) (fun problem _ => ?_)
  · cases count with
    | ok n => exact .pure ⟨swept, .ok n, _, hsweeps, closed _, rfl, fun _ => ⟨n, rfl⟩⟩
    | error fault => exact .fail ⟨swept, .error fault, _, hsweeps, closed _, rfl, nofun⟩
  · exact ⟨swept, count, _, hsweeps, closed _, rfl, nofun⟩

theorem watch_does (labels : Record String) (s : σ) :
    Does w (watch labels) s (fun steps r _ =>
      Watches w (Session.labelFilters (sweepLabels labels)) steps r) := by
  refine .afterRead ((takes_awaitEnd w.input s trivial).bind ?_ ?_)
  · rintro before _ s₁ ⟨hbefore, -⟩
    have opening (answer : Except Problem Client) :
        ∀ x ∈ before ++ [.wrote .info "Parent process exited, pruning resources"
          [("labels", .ofTextTable labels)], .asked .clientFromEnvironment answer],
          isBeside x = true := by
      refine List.forall_mem_append.mpr ⟨hbefore, ?_⟩
      simp [isBeside]
    refine .afterLog (.ask (fun k _ => ?_) (fun problem _ => .unswept (opening _)))
    refine (sweepAndClose_does k _ s₁).mono ?_
    rintro _ r _ ⟨swept, count, after, hsweeps, hafter, rfl, hr⟩
    have hwatches := Watches.swept (opening (.ok k)) hsweeps hafter hr
    rwa [List.append_assoc] at hwatches
  · rintro steps fault _ ⟨hbeside, -⟩
    exact .unswept hbeside

/-- A listing or a removal is one of the sweep. -/
theorem Watches.mem_swept {r : Except Fault Unit} (h : Watches w filters steps r) {x : Step}
    (hx : x ∈ steps) (hbeside : isBeside x = false) :
    ∃ k swept count, Sweep.Sweeps w k filters swept count ∧ x ∈ swept ∧ swept ⊆ steps := by
  have absent {others : List Step} (hothers : ∀ x ∈ others, isBeside x = true) : x ∉ others := by
    intro hmem
    rw [hothers x hmem] at hbeside
    cases hbeside
  cases h with
  | unswept hothers => exact absurd hx (absent hothers)
  | @swept before swept after k count r' hbefore hsweeps hafter _ =>
    rw [List.mem_append, List.mem_append] at hx
    rcases hx with hx | hx | hx
    · exact absurd hx (absent hbefore)
    · refine ⟨k, swept, count, hsweeps, hx, ?_⟩
      exact List.subset_append_of_subset_right _ (List.subset_append_left _ _)
    · exact absurd hx (absent hafter)

theorem Watches.listed_of_ok (h : Watches w filters steps (.ok ())) (kind : ResourceKind) :
    ∃ k ids, Sweep.listed k filters (.ok ids) kind ∈ steps := by
  generalize hr : (Except.ok () : Except Fault Unit) = r at h
  cases h with
  | unswept _ => cases hr
  | @swept before swept after k _ _ _ hsweeps _ hended =>
    obtain ⟨count, rfl⟩ := hended hr.symm
    obtain ⟨ids, hlisted⟩ := Sweep.listed_of_finished hsweeps kind
    exact ⟨k, ids, by simp [hlisted]⟩

/-! ### Labels and resources -/

theorem filters_of_table (table : Record String) :
    Session.labelFilters (sweepLabels table) =
      table.map (fun (key, value) => key ++ "=" ++ value) := by
  rw [Session.labelFilters, sweepLabels, List.map_map]
  rfl

theorem execute_watches {arguments : List String} (h : readLabels arguments = .ok labels)
    (w : World) (s : σ) (j : Journal) :
    ∃ steps r, (execute arguments w s j).2.2.steps w = j.steps w ++ steps ∧
      Watches w (Session.labelFilters (sweepLabels labels)) steps r ∧
      (execute arguments w s j).1 = r.map (fun _ => .finished (.int 0)) := by
  obtain ⟨steps, hsteps, hwatches⟩ := watch_does (w := w) labels s j
  rw [execute_of_labels h]
  exact ⟨steps, _, hsteps, hwatches, rfl⟩

/-- Of the labels on a command line that is accepted the last of each key counts: every listing asks
for these, and nothing is removed that lacks one of them where the daemon goes by all that it is
asked for. They are all the labels that were given exactly if no key was given with two values. -/
theorem course_of_given {arguments : List String} (hread : readLabels arguments = .ok labels)
    (w : World) (s : σ) (j : Journal) :
    ∃ texts steps, givenLabels arguments = .ok texts ∧ texts ≠ [] ∧
      (execute arguments w s j).2.2.steps w = j.steps w ++ steps ∧
      (∀ k sought answer kind, Sweep.listed k sought answer kind ∈ steps →
        (∀ text, text ∈ sought ↔ LastOf texts text) ∧
        ((∀ text ∈ texts, text ∈ sought) ↔
          ∀ text ∈ texts, ∀ other ∈ texts, keyOf text = keyOf other → text = other)) ∧
      (∀ ending, (execute arguments w s j).1 = .ok ending →
        ∀ kind, ∃ k sought ids, Sweep.listed k sought (.ok ids) kind ∈ steps) ∧
      ∀ carries, w.Honours carries → ∀ k id answer kind,
        Sweep.removed k id answer kind ∈ steps → ∀ text, LastOf texts text →
          carries kind id text := by
  obtain ⟨texts, hgiven, hne, rfl⟩ := exists_given hread
  have hfilters : Session.labelFilters (sweepLabels (Record.ofPairs (labelTable texts))) =
      filtersOf texts := filters_of_table _
  have hlast {text : String} : text ∈ filtersOf texts ↔ LastOf texts text :=
    mem_filtersOf_iff (isLabel_of_given hgiven)
  obtain ⟨steps, r, hsteps, hwatches, hresult⟩ := execute_watches hread w s j
  rw [hfilters] at hwatches
  refine ⟨texts, steps, hgiven, hne, hsteps, fun k sought answer kind hx => ?_,
    fun ending hending kind => ?_, fun carries hcarries k id answer kind hx text htext => ?_⟩
  · obtain ⟨_, swept, count, hsweeps, hx, -⟩ :=
      hwatches.mem_swept hx (isBeside_listed _ _ _ _)
    obtain rfl := Sweep.eq_of_listed hsweeps hx
    refine ⟨fun text => hlast, ?_⟩
    rw [← forall_lastOf_iff]
    exact forall₂_congr (fun text _ => hlast)
  · rw [hresult] at hending
    cases r with
    | error fault => cases hending
    | ok u =>
      obtain ⟨k, ids, hlisted⟩ := hwatches.listed_of_ok kind
      exact ⟨k, _, ids, hlisted⟩
  · obtain ⟨k', swept, count, hsweeps, hx, hsub⟩ :=
      hwatches.mem_swept hx (isBeside_removed _ _ _ _)
    obtain ⟨ids, hid, hlisted⟩ := Sweep.exists_listed hsweeps hx
    have hjournal : Sweep.listed k' (filtersOf texts) (.ok ids) kind ∈
        (execute arguments w s j).2.2.steps w := by
      rw [hsteps]
      exact List.mem_append_right _ (hsub hlisted)
    obtain ⟨past, hlisting⟩ := Sweep.listing_of_gives hjournal
    exact hcarries _ _ _ _ _ hlisting id hid text (hlast.mpr htext)

/-- The labels on a container. -/
def carried : List String := ["kind=x=y", "team=b"]

/-- A world with this container alone, listed where it carries all that is asked for. -/
def shared : World :=
  { World.plain (fun _ => none) with
    answer := fun _ c => match c with
      | .client _ (.containersMatching filters) =>
        { result := .ok (if ∀ text ∈ filters, text ∈ carried then ["left"] else []) }
      | c => { result := .ok c.plain } }

theorem honours_shared : shared.Honours (fun _ id text => id = "left" ∧ text ∈ carried) := by
  intro k filters past kind ids h id hid text htext
  cases kind with
  | container =>
    obtain rfl : (if ∀ text ∈ filters, text ∈ carried then ["left"] else []) = ids :=
      Except.ok.inj h
    split at hid
    · next hall => exact ⟨List.mem_singleton.mp hid, hall text htext⟩
    · cases hid
  | network | volume | image =>
    cases h
    cases hid

/-- Where each key has one value, every kind is listed by both labels, and only the container that
carries them goes. -/
theorem course_shared : ∃ steps,
    (execute ["--label", "kind=x=y", "--label", "team=b"] shared () {}).2.2.steps shared = steps ∧
    (∀ kind, ∃ k sought ids, Sweep.listed k sought (.ok ids) kind ∈ steps ∧
      "kind=x=y" ∈ sought ∧ "team=b" ∈ sought) ∧
    ∀ k id answer kind, Sweep.removed k id answer kind ∈ steps → id = "left" := by
  have hgiven : givenLabels (labelArguments ["kind=x=y", "team=b"]) = .ok ["kind=x=y", "team=b"] :=
    givenLabels_of_labels (by decide) (by decide)
  obtain ⟨texts, steps, hgiven', -, hsteps, hlisted, hended, hremoved⟩ :=
    course_of_given (readLabels_of_given hgiven (by decide)) shared () {}
  obtain rfl : ["kind=x=y", "team=b"] = texts := Except.ok.inj (hgiven.symm.trans hgiven')
  have hlast : LastOf ["kind=x=y", "team=b"] "team=b" := ⟨["kind=x=y"], [], rfl, by simp⟩
  refine ⟨steps, hsteps, fun kind => ?_, fun k id answer kind hx => ?_⟩
  · have hok : (execute (labelArguments ["kind=x=y", "team=b"]) shared () {}).1.toBool = true := by
      decide +kernel
    cases hresult : (execute (labelArguments ["kind=x=y", "team=b"]) shared () {}).1 with
    | error fault =>
      rw [hresult] at hok
      cases hok
    | ok ending =>
      obtain ⟨k, sought, ids, hx⟩ := hended ending hresult kind
      have hall := (hlisted k sought _ kind hx).2.mpr (by decide)
      exact ⟨k, sought, ids, hx, hall _ (by simp), hall _ (by simp)⟩
  · exact (hremoved _ honours_shared k id answer kind hx "team=b" hlast).1

/-- Of two labels with one key the first is dropped, and so a container goes that does not carry
it. -/
theorem removed_unlabelled :
    givenLabels ["--label", "team=a", "--label", "team=b"] = .ok ["team=a", "team=b"] ∧
    shared.Honours (fun _ id text => id = "left" ∧ text ∈ carried) ∧ "team=a" ∉ carried ∧
    Sweep.listed "client" ["team=b"] (.ok ["left"]) .container ∈
      (execute ["--label", "team=a", "--label", "team=b"] shared () {}).2.2.steps shared ∧
    Sweep.removed "client" "left" (.ok ()) .container ∈
      (execute ["--label", "team=a", "--label", "team=b"] shared () {}).2.2.steps shared := by
  have hgiven : givenLabels (labelArguments ["team=a", "team=b"]) = .ok ["team=a", "team=b"] :=
    givenLabels_of_labels (by decide) (by decide)
  have hread : readLabels (labelArguments ["team=a", "team=b"]) = .ok [("team", "b")] :=
    readLabels_of_given hgiven (by decide)
  have hsteps : (execute (labelArguments ["team=a", "team=b"]) shared () {}).2.2.steps shared =
      (watch [("team", "b")] shared () {}).2.2.steps shared := by
    rw [execute_of_labels hread]
  refine ⟨hgiven, honours_shared, by decide, ?_, ?_⟩
  · exact hsteps ▸ List.mem_of_getElem? (i := 3) rfl
  · exact hsteps ▸ List.mem_of_getElem? (i := 4) rfl

end Watch

end Mooring
