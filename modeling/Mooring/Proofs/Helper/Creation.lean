import Mooring.Proofs.Helper.Image

/-! What helper containers are asked for. Work in one asks for no other unless the work itself does,
and where the disk space is checked the container is asked for with the labels of the session, from
an image that was made sure of before. -/

namespace Mooring

open Mooring.Action

variable {σ α : Type} {w : World} {inv : σ → Prop} {steps rest : List Step}

namespace Step

/-- The helper container that a step asks for, whatever the daemon answers. -/
def creation? : Step → Option (Client × Record Value)
  | .asked (.client k (.createContainer request)) _ => some (k, request)
  | _ => none

theorem creation?_of_isOrdinary {x : Step} (h : x.isOrdinary = true) : x.creation? = none := by
  unfold creation?
  split
  · cases h
  · rfl

end Step

/-! ### One creation -/

/-- The stretches in which no helper container is asked for. -/
def Stretch.uncreating : Stretch := .all (fun x => x.creation?.isNone)

theorem creations_of_uncreating (h : Stretch.uncreating.holds steps) :
    steps.filterMap Step.creation? = [] :=
  List.filterMap_eq_nil_iff.mpr (fun x hx => Option.isNone_iff_eq_none.mp (h x hx))

theorem uncreating_of_ordinary (h : Stretch.ordinary.holds steps) :
    Stretch.uncreating.holds steps :=
  fun x hx => Option.isNone_iff_eq_none.mpr (Step.creation?_of_isOrdinary (h x hx))

theorem uncreating_of_removal (k : Client) (id : ResourceId) (answer : Except Problem Unit)
    (h : ∀ x ∈ steps, x.IsLine) :
    Stretch.uncreating.holds (.asked (.client k (.removeContainer id)) answer :: steps) :=
  List.forall_mem_cons.mpr ⟨rfl, uncreating_of_ordinary (fun x hx => (h x hx).isOrdinary)⟩

theorem takes_removeContainer (client : Client) (id : ResourceId) :
    Takes w .uncreating inv (removeContainer client id : Action σ Unit) := by
  refine fun s hs => (removeContainer_does client id s).mono ?_
  rintro _ _ _ ⟨answer, lines, rfl, hlines, rfl⟩
  exact ⟨uncreating_of_removal _ _ _ hlines, hs⟩

theorem takes_removeAfter (client : Client) (id : ResourceId) (fault : Fault) :
    Takes w .uncreating inv (removeAfter client id fault : Action σ α) := by
  refine fun s hs => (removeAfter_does client id fault s).mono ?_
  rintro _ _ _ ⟨answer, lines, rfl, hlines, rfl⟩
  exact ⟨uncreating_of_removal _ _ _ hlines, hs⟩

/-- Of work that asks for no helper container, the one it is done in is asked for at once, and no
other is. -/
theorem withHelper_creates (client : Client) (spec : HelperSpec) {work : ResourceId → Action σ α}
    (hwork : ∀ id, Takes w .uncreating inv (work id)) {s : σ} (hs : inv s) :
    Does w (withHelper client spec work) s (fun steps _ s' => ∃ answer rest,
      steps = .asked (.client client (.createContainer spec.request)) answer :: rest ∧
        Stretch.uncreating.holds rest ∧ inv s') := by
  have starts (id : ResourceId) : Takes w .uncreating inv
      (do onClient client (.startContainer id); work id) :=
    .bind (.call (fun _ => rfl)) (fun _ => hwork id)
  refine .ask (fun id _ => .afterLog ?_)
    (fun problem _ => ⟨_, [], rfl, Stretch.uncreating.nil, hs⟩)
  refine Takes.does (.bind (.attempt (starts id)) (fun ended => ?_)) hs ?_
  · cases ended with
    | ok a => exact .bind (takes_removeContainer client id) (fun _ => .pure a)
    | error fault => exact takes_removeAfter client id fault
  · intro rest _ s' hrest hs'
    exact ⟨_, _, rfl, List.forall_mem_cons.mpr ⟨rfl, hrest⟩, hs'⟩

theorem withHelper_does (client : Client) (spec : HelperSpec) {work : ResourceId → Action σ α}
    (hwork : ∀ id, Takes w .uncreating inv (work id)) {s : σ} (hs : inv s) :
    Does w (withHelper client spec work) s (fun steps _ s' =>
      steps.filterMap Step.creation? = [(client, spec.request)] ∧ inv s') := by
  refine (withHelper_creates client spec hwork hs).mono ?_
  rintro _ _ s' ⟨answer, rest, rfl, hrest, hs'⟩
  exact ⟨congrArg (_ :: ·) (creations_of_uncreating hrest), hs'⟩

/-! ### Requests -/

theorem HelperSpec.get?_labels (spec : HelperSpec) :
    spec.request.get? "labels" = some (.object spec.labels) := by
  unfold HelperSpec.request
  split
  · exact Record.get?_put_self ..
  · rw [Record.get?_put_of_ne (by decide)]
    exact Record.get?_put_self ..

theorem HelperSpec.get?_image (spec : HelperSpec) :
    spec.request.get? "image" = some (.text spec.image) := by
  have himage : ((spec.options.put "image" (.text spec.image)).put "labels"
      (.object spec.labels)).get? "image" = some (.text spec.image) := by
    rw [Record.get?_put_of_ne (by decide)]
    exact Record.get?_put_self ..
  unfold HelperSpec.request
  split
  · exact himage
  · rw [Record.get?_put_of_ne (by decide)]
    exact himage

/-! ### Vouched requests -/

/-- A request with the labels of the session, for an image that was shown to be there before. -/
def Vouched (session : String) (past : List Step) (k : Client) (request : Record Value) : Prop :=
  request.get? "labels" = some (.object (Session.labels session)) ∧
    ∃ image, request.get? "image" = some (.text image) ∧ ∃ x ∈ past, Ensures k image x

/-- Every helper container is asked for by a vouched request. -/
def Vouches (session : String) (past : List Step) : List Step → Prop
  | [] => True
  | x :: xs => (∀ k request, x.creation? = some (k, request) → Vouched session past k request) ∧
    Vouches session (past ++ [x]) xs

section Vouches

variable {session : String} {past past' : List Step}

theorem vouches_append (xs ys : List Step) : Vouches session past (xs ++ ys) ↔
    Vouches session past xs ∧ Vouches session (past ++ xs) ys := by
  induction xs generalizing past with
  | nil => simp [Vouches]
  | cons x xs ih => simp [Vouches, ih, and_assoc]

theorem Vouches.mono {xs : List Step} (h : Vouches session past xs) (hp : past ⊆ past') :
    Vouches session past' xs := by
  induction xs generalizing past past' with
  | nil => trivial
  | cons x xs ih =>
    obtain ⟨hx, hxs⟩ := h
    refine ⟨fun k request hrequest => ?_, ih hxs (List.append_subset.mpr ⟨?_, ?_⟩)⟩
    · obtain ⟨hlabels, image, himage, y, hy, hensures⟩ := hx k request hrequest
      exact ⟨hlabels, image, himage, y, hp hy, hensures⟩
    · exact List.subset_append_of_subset_left _ hp
    · exact List.subset_append_right _ _

theorem vouches_of_uncreating {xs : List Step} (h : Stretch.uncreating.holds xs) :
    Vouches session past xs := by
  induction xs generalizing past with
  | nil => trivial
  | cons x xs ih =>
    obtain ⟨hx, hxs⟩ := List.forall_mem_cons.mp h
    refine ⟨fun k request hrequest => ?_, ih hxs⟩
    have hnone : x.creation? = none := Option.isNone_iff_eq_none.mp hx
    rw [hrequest] at hnone
    cases hnone

end Vouches

/-- The stretches in which every helper container is asked for by a vouched request. -/
def Stretch.vouched (session : String) : Stretch where
  holds := Vouches session []
  nil := trivial
  append h h' := (vouches_append _ _).mpr ⟨h, h'.mono (List.nil_subset _)⟩

theorem Stretch.vouched_of_ordinary {session : String} (h : Stretch.ordinary.holds steps) :
    (Stretch.vouched session).holds steps :=
  vouches_of_uncreating (uncreating_of_ordinary h)

/-- A helper container that is asked for once its image was made sure of. -/
theorem vouches_helper {session image : String} {k : Client} {spec : HelperSpec}
    {before after : List Step} (hb : Stretch.ordinary.holds before)
    (hm : MakesSure k image before) (himage : spec.image = image)
    (hlabels : spec.labels = Session.labels session) (answer : Except Problem ResourceId)
    (ha : Stretch.uncreating.holds after) :
    (Stretch.vouched session).holds
      (before ++ .asked (.client k (.createContainer spec.request)) answer :: after) := by
  refine (vouches_append _ _).mpr ⟨vouches_of_uncreating (uncreating_of_ordinary hb), ?_,
    vouches_of_uncreating ha⟩
  rintro _ _ ⟨⟩
  refine ⟨by rw [spec.get?_labels, hlabels], image, by rw [spec.get?_image, himage], ?_⟩
  exact (hm.exists_ensures_iff image).mpr (.inl rfl)

theorem vouched_measure (client : Client) (image : String) :
    Takes w (.vouched w.session) inv (DiskUsage.measure client image : Action σ DiskUsage) := by
  have prints (id : ResourceId) : Takes w .uncreating inv (do
      let _ ← onClient client (.waitContainer id)
      onClient client (.containerLogs id false)) :=
    .bind (.call (fun _ => rfl)) (fun _ => .call (fun _ => rfl))
  intro s hs
  refine (ensureImage_makesSure client image s).bind ?_ ?_
  · rintro before u _ ⟨hbefore, rfl, hmakes⟩
    refine .afterRead ((withHelper_creates client _ prints hs).bind ?_ ?_)
    · rintro _ output s' ⟨answer, rest, rfl, hrest, hs'⟩
      refine (takes_ofTable _ _ s' hs').mono ?_
      rintro lines r s'' ⟨hlines, hs''⟩
      refine ⟨?_, hs''⟩
      exact vouches_helper hbefore (hmakes rfl) rfl rfl answer
        (Stretch.uncreating.append hrest (uncreating_of_ordinary hlines))
    · rintro _ fault s' ⟨answer, rest, rfl, hrest, hs'⟩
      exact ⟨vouches_helper hbefore (hmakes rfl) rfl rfl answer hrest, hs'⟩
  · rintro before fault _ ⟨hbefore, rfl, -⟩
    exact ⟨Stretch.vouched_of_ordinary hbefore, hs⟩

theorem vouched_check (client : Client) (image : String) (requiredMb : Int) :
    Takes w (.vouched w.session) inv
      (DiskUsage.check client image requiredMb : Action σ DiskUsage) :=
  takes_checkAs (fun _ => Stretch.vouched_of_ordinary) (vouched_measure client image) requiredMb

end Mooring
