import Mooring.Proofs.Connection.Inside
import Mooring.Proofs.Connection.Tidy
import Mooring.Proofs.Helper.Creation
import Mooring.Proofs.Helper.Removal

/-! The helper container of work inside a connection. The small image is made sure of first; then
the caller adjusts the request, which starts out with that image and the labels of the session; and
the container is asked for as the adjusted request says. Nothing is looked at again in between: it
is the caller's adjustment that decides whether the labels are still there, and whether the image is
one that was made sure of. -/

namespace Mooring

open Mooring.Action

theorem Record.mem_of_get? {β : Type} {r : Record β} {key : String} {value : β}
    (h : r.get? key = some value) : (key, value) ∈ r := by
  obtain ⟨⟨found, value'⟩, hfound, rfl⟩ := Option.map_eq_some_iff.mp h
  obtain rfl : found = key := by simpa using List.find?_some hfound
  exact List.mem_of_find?_eq_some hfound

/-- The labels of a session are among these. -/
def Bears (session : String) (labels : Record Value) : Prop :=
  ∀ label ∈ Session.labels session, labels.get? label.1 = some label.2

/-- What bears the labels of a session meets every filter for them. -/
theorem Bears.labelFilters_subset {session : String} {labels : Record Value}
    (h : Bears session labels) :
    Session.labelFilters (Session.labels session) ⊆ Session.labelFilters labels := by
  intro text htext
  obtain ⟨label, hlabel, rfl⟩ := List.mem_map.mp htext
  exact List.mem_map.mpr ⟨label, Record.mem_of_get? (h label hlabel), rfl⟩

/-- Labels that are put under other keys take none of them away. -/
theorem Bears.put {session key : String} {labels : Record Value} (h : Bears session labels)
    (howner : key ≠ Session.ownerLabel) (hsession : key ≠ Session.sessionLabel) (value : Value) :
    Bears session (labels.put key value) := by
  intro label hlabel
  have hne : key ≠ label.1 := by
    rcases List.mem_cons.mp hlabel with rfl | hlast
    · exact howner
    · obtain rfl := List.mem_singleton.mp hlast
      exact hsession
  rw [Record.get?_put_of_ne hne]
  exact h label hlabel

theorem bears_labels (session : String) : Bears session (Session.labels session) := by
  have hne : Session.ownerLabel ≠ Session.sessionLabel := by decide
  simp [Bears, Session.labels, Record.get?_cons, hne]

namespace Connection

variable {σ α : Type} {w : World} {c c₁ : Connection} {k : Client} {spec : HelperSpec}
  {adjust : Action HelperSpec Unit} {j found ensured adjusted : Journal}

/-! ### A pull that fails -/

theorem runInside_of_unensured {fault : Fault} {j' : Journal}
    (hclient : client w c j = (.ok k, c₁, found))
    (hensure : ensureImage k c₁.settings.tinyImage w c₁ found = (.error fault, c₁, j'))
    (work : Client → ResourceId → Action Connection α) :
    runInside adjust work w c j = (.error fault, c₁, j') := by
  rw [runInside, run_bind_ok hclient, run_bind_ok run_get, run_bind_error hensure]

theorem uncreating_of_pull (k : Client) (image : String) (answer : Except Problem Unit) :
    Stretch.uncreating.holds (pullSteps k image answer) := by
  have hlines : Stretch.uncreating.holds (pullLines image answer) := by
    cases answer with
    | ok u => exact List.forall_mem_singleton.mpr rfl
    | error problem =>
      rw [pullLines]
      split
      · exact List.forall_mem_singleton.mpr rfl
      · exact Stretch.uncreating.nil
  exact List.forall_mem_cons.mpr ⟨rfl, List.forall_mem_cons.mpr ⟨rfl,
    List.forall_mem_cons.mpr ⟨rfl, hlines⟩⟩⟩

/-- An image of which a copy is listed is not pulled. Where a pull fails, the failure is reported as
that, with the trouble for its cause, exactly if the trouble is the daemon's; any other comes out as
it is. Either way no helper container is asked for once the small image could not be pulled. -/
theorem pull_of_listing {image : String} {copies : List ResourceId} (s : σ)
    (hlist : (w.answer found.events (.client k (.imagesNamed image))).result = .ok copies) :
    (copies ≠ [] → ensureImage k image w s found =
      (.ok (), s, found.afterCall w (.client k (.imagesNamed image)))) ∧
    ∀ problem, copies = [] →
      (w.answer (found.pulling w k image).events (pull k image)).result = .error problem →
      ∃ fault, (∃ j', ensureImage k image w s found = (.error fault, s, j')) ∧
        (ReportsPull image problem fault ↔ problem.isDaemonTrouble = true) ∧
        (problem.isDaemonTrouble = false → fault = .of problem) ∧
        ∀ c j c₁, client w c j = (.ok k, c₁, found) → c₁.settings.tinyImage = image →
          ∃ j' steps, j'.steps w = found.steps w ++ steps ∧ Stretch.uncreating.holds steps ∧
            ∀ (adjust : Action HelperSpec Unit) (work : Client → ResourceId → Action Connection α),
              runInside adjust work w c j = (.error fault, c₁, j') := by
  refine ⟨fun hne => ensureImage_of_listed hne hlist s, ?_⟩
  rintro problem rfl hpull
  obtain ⟨j', hrun, -⟩ := ensureImage_of_unlisted hlist hpull s
  refine ⟨unpulled image problem, ⟨j', hrun⟩, reportsPull_iff image problem, ?_, ?_⟩
  · intro hother
    simp [unpulled, hother]
  · rintro c j c₁ hclient rfl
    obtain ⟨j', hensure, hsteps⟩ := ensureImage_of_unlisted hlist hpull c₁
    exact ⟨j', _, hsteps, uncreating_of_pull _ _ _, fun adjust work =>
      runInside_of_unensured hclient hensure work⟩

/-- A world in which no image is there and every pull is answered alike. -/
def bare (pulled : Except Problem Unit) : World :=
  { World.plain (fun _ => none) with
    answer := fun _ c => match c with
      | .client _ (.imagesNamed _) => { result := .ok [] }
      | .client _ (.pullImage _ _) => { result := pulled }
      | c => { result := .ok c.plain } }

def unknownImage : Problem := .refused .imageNotFound "no such image" (some 404) "" "" ""

/-- The daemon does not know the image: that is reported, and no container is asked for. -/
theorem pull_bare : ∃ fault j' steps,
    runInside (pure ()) (fun k id => call (.work (some k) id)) (bare (.error unknownImage)) standing
      {} = (.error fault, standing, j') ∧
    ReportsPull "alpine:3.5" unknownImage fault ∧ j'.steps (bare (.error unknownImage)) = steps ∧
    steps.filterMap Step.creation? = [] := by
  have hlist : ((bare (.error unknownImage)).answer ({} : Journal).events
    (.client "own" (.imagesNamed "alpine:3.5"))).result = .ok [] := rfl
  obtain ⟨-, hfails⟩ := pull_of_listing (α := Unit) standing hlist
  obtain ⟨fault, -, hreports, -, hinside⟩ := hfails unknownImage rfl rfl
  have hclient : client (bare (.error unknownImage)) standing {} = (.ok "own", standing, {}) :=
    client_of_held rfl rfl rfl _ _
  obtain ⟨j', steps, hsteps, huncreating, hrun⟩ := hinside standing {} standing hclient rfl
  exact ⟨fault, j', steps, hrun _ _, hreports.mpr rfl, hsteps, creations_of_uncreating huncreating⟩

/-- The connection to the daemon breaks during the pull: that it was a pull is not told. -/
theorem pull_aborted : aborted.isException = true ∧
    ∃ j', ensureImage "own" "alpine:3.5" (bare (.error aborted)) () {} =
      (.error (.of aborted), (), j') ∧
    ¬ ReportsPull "alpine:3.5" aborted (.of aborted) := by
  refine ⟨rfl, _, rfl, ?_⟩
  rintro ⟨-, hcause⟩
  cases hcause

/-! ### Up to the creation -/

/-- A run that comes to the creation of its helper container: a client is found, the small image is
made sure of, and the caller has adjusted the request for a container from it. -/
structure Arrives (w : World) (adjust : Action HelperSpec Unit) (c : Connection) (j : Journal)
    (k : Client) (c₁ : Connection) (spec : HelperSpec) (found ensured adjusted : Journal) :
    Prop where
  client : Connection.client w c j = (.ok k, c₁, found)
  ensure : ensureImage k c₁.settings.tinyImage w c₁ found = (.ok (), c₁, ensured)
  adjust : adjust w (.ofImage w.session c₁.settings.tinyImage) ensured = (.ok (), spec, adjusted)

/-- Any other run is over before the caller's work is of any concern. -/
theorem runInside_arrives (w : World) (adjust : Action HelperSpec Unit) (c : Connection)
    (j : Journal) :
    (∃ fault c' j', ∀ work : Client → ResourceId → Action Connection α,
      runInside adjust work w c j = (.error fault, c', j')) ∨
    ∃ k c₁ spec found ensured adjusted, Arrives w adjust c j k c₁ spec found ensured adjusted := by
  rcases hclient : client w c j with ⟨fault | k, c₁, found⟩
  · exact .inl ⟨fault, c₁, found, fun work => run_bind_error hclient⟩
  · obtain ⟨result, ensured, hensure, -⟩ :=
      ensureImage_cases w k c₁.settings.tinyImage c₁ found
    cases result with
    | error fault =>
      exact .inl ⟨fault, c₁, ensured, runInside_of_unensured hclient hensure⟩
    | ok u =>
      rcases hadjust : adjust w (.ofImage w.session c₁.settings.tinyImage) ensured with
        ⟨fault | u, spec, adjusted⟩
      · refine .inl ⟨fault, c₁, adjusted, fun work => ?_⟩
        rw [runInside, run_bind_ok hclient, run_bind_ok run_get, run_bind_ok hensure,
          run_bind_ok run_read, run_bind_ok (run_runOn _ _), hadjust]
        rfl
      · exact .inr ⟨k, c₁, spec, found, ensured, adjusted, hclient, hensure, hadjust⟩

section Arrives

variable (h : Arrives w adjust c j k c₁ spec found ensured adjusted)

include h

/-- The helper container is asked for next, as the adjusted request says, and work that asks for
none is done in it. -/
theorem Arrives.creates {work : Client → ResourceId → Action Connection α}
    (hwork : ∀ id, Takes w .uncreating (fun _ => True) (work k id)) :
    ∃ answer rest, (runInside adjust work w c j).2.2.steps w = adjusted.steps w ++
      .asked (.client k (.createContainer spec.request)) answer :: rest ∧
        Stretch.uncreating.holds rest := by
  rw [runInside_of_client h.client h.ensure h.adjust]
  obtain ⟨_, hsteps, answer, rest, rfl, hrest, -⟩ :=
    withHelper_creates k spec hwork trivial adjusted
  exact ⟨answer, rest, hsteps, hrest⟩

/-- A helper container that was asked for on the way to the client was for the disk space: with the
labels of the session, from an image that was made sure of. -/
theorem Arrives.vouched (hc : c.Idle) : ∃ before, found.steps w = j.steps w ++ before ∧
    (Stretch.vouched w.session).holds before := by
  have hspans : Spans w (.vouched w.session) :=
    ⟨fun _ => Stretch.vouched_of_ordinary, vouched_check⟩
  obtain ⟨before, hbefore, hvouched, -⟩ := (hspans.client c hc).run h.client
  exact ⟨before, hbefore, hvouched⟩

end Arrives

/-! ### The labels -/

/-- The container is asked for with the labels that the adjusted request has in its own field,
whatever its options say. So the labels of the session, which the request starts out with, are among
them exactly if the adjustment has left them there; then every filter for them is met. -/
theorem Arrives.creation_bears_iff
    (h : Arrives w adjust c j k c₁ spec found ensured adjusted)
    {work : Client → ResourceId → Action Connection α}
    (hwork : ∀ id, Takes w .uncreating (fun _ => True) (work k id)) :
    ∃ answer rest, (runInside adjust work w c j).2.2.steps w = adjusted.steps w ++
      .asked (.client k (.createContainer spec.request)) answer :: rest ∧
      Stretch.uncreating.holds rest ∧
      Bears w.session (HelperSpec.ofImage w.session c₁.settings.tinyImage).labels ∧
      spec.request.get? "labels" = some (.object spec.labels) ∧
      ((∃ labels, spec.request.get? "labels" = some (.object labels) ∧ Bears w.session labels) ↔
        Bears w.session spec.labels) ∧
      (Bears w.session spec.labels →
        Session.labelFilters (Session.labels w.session) ⊆ Session.labelFilters spec.labels) ∧
      (c.Idle → ∃ before, found.steps w = j.steps w ++ before ∧
        (Stretch.vouched w.session).holds before) := by
  obtain ⟨answer, rest, hsteps, hrest⟩ := h.creates hwork
  refine ⟨answer, rest, hsteps, hrest, bears_labels w.session, spec.get?_labels, ?_,
    Bears.labelFilters_subset, h.vouched⟩
  rw [spec.get?_labels]
  constructor
  · rintro ⟨_, ⟨⟩, hbears⟩
    exact hbears
  · exact fun hbears => ⟨spec.labels, rfl, hbears⟩

/-- A world in which all goes well. -/
def smooth : World := World.plain (fun _ => none)

/-- The journal once the small image was found there. -/
def smoothEnsured : Journal :=
  Journal.afterCall {} smooth (.client "own" (.imagesNamed "alpine:3.5"))

theorem arrives_smooth (f : HelperSpec → HelperSpec) :
    Arrives smooth (modify f) standing {} "own" standing (f (.ofImage "session" "alpine:3.5")) {}
      smoothEnsured smoothEnsured :=
  ⟨client_of_held rfl rfl rfl _ _, rfl, rfl⟩

/-- Work that is one call. -/
def plainWork (k : Client) (id : ResourceId) : Action Connection Unit := call (.work (some k) id)

theorem uncreating_plainWork (k : Client) (id : ResourceId) :
    Takes w .uncreating (fun _ => True) (plainWork k id) := .call (fun _ => rfl)

/-- A label of the caller's own, and options that are named as the fields are. -/
def labelled (spec : HelperSpec) : HelperSpec :=
  { spec with
    labels := spec.labels.put "team" (.text "a")
    options := [("image", .text "busybox"), ("labels", .null)] }

/-- They do no harm to the labels of the session. -/
theorem labels_labelled : ∃ steps request answer rest labels,
    (runInside (modify labelled) plainWork smooth standing {}).2.2.steps smooth =
      steps ++ .asked (.client "own" (.createContainer request)) answer :: rest ∧
    request.get? "labels" = some (.object labels) ∧ Bears smooth.session labels ∧
    labels.get? "team" = some (.text "a") := by
  obtain ⟨answer, rest, hsteps, -, -, hlabels, hbears, -, -⟩ :=
    (arrives_smooth labelled).creation_bears_iff (uncreating_plainWork "own")
  have hkept : Bears "session" ((Session.labels "session").put "team" (.text "a")) :=
    (bears_labels "session").put (by decide) (by decide) _
  obtain ⟨labels, hrequest, hborne⟩ := hbears.mpr hkept
  obtain rfl : (labelled (.ofImage "session" "alpine:3.5")).labels = labels := by
    rw [hlabels] at hrequest
    cases hrequest
    rfl
  exact ⟨_, _, answer, rest, _, hsteps, hlabels, hborne, rfl⟩

/-- A session of another name. -/
def mislabelled (spec : HelperSpec) : HelperSpec :=
  { spec with labels := spec.labels.put Session.sessionLabel (.text "other") }

/-- The container is asked for without the label of its session. -/
theorem labels_mislabelled : ∃ request,
    ((runInside (modify mislabelled) plainWork smooth standing {}).2.2.steps
      smooth).filterMap Step.creation? = [("own", request)] ∧
    ¬ ∃ labels, request.get? "labels" = some (.object labels) ∧ Bears smooth.session labels := by
  refine ⟨_, rfl, ?_⟩
  rintro ⟨_, ⟨⟩, hbears⟩
  have hsession := hbears _ (List.mem_cons_of_mem _ (List.mem_singleton_self _))
  have hsame := (Record.get?_put_self ..).symm.trans hsession
  exact absurd (Value.text.inj (Option.some.inj hsame)) (by decide)

/-! ### The image -/

/-- The small image is made sure of before the adjustment, and the container is asked for with the
image that the adjustment has left. That one was made sure of as well exactly if it is the small
image, or by the same repository and tag as the small image was pulled by. -/
theorem Arrives.creation_ensured_iff
    (h : Arrives w adjust c j k c₁ spec found ensured adjusted)
    {work : Client → ResourceId → Action Connection α}
    (hwork : ∀ id, Takes w .uncreating (fun _ => True) (work k id)) :
    ∃ ensuring answer rest, ensured.steps w = found.steps w ++ ensuring ∧
      (runInside adjust work w c j).2.2.steps w = adjusted.steps w ++
        .asked (.client k (.createContainer spec.request)) answer :: rest ∧
      Stretch.uncreating.holds rest ∧
      spec.request.get? "image" = some (.text spec.image) ∧
      (∃ x ∈ ensuring, Ensures k c₁.settings.tinyImage x) ∧
      ((∃ x ∈ ensuring, Ensures k spec.image x) ↔ spec.image = c₁.settings.tinyImage ∨
        (.asked (pull k c₁.settings.tinyImage) (.ok ()) ∈ ensuring ∧
          pullTarget spec.image = pullTarget c₁.settings.tinyImage)) ∧
      (c.Idle → ∃ before, found.steps w = j.steps w ++ before ∧
        (Stretch.vouched w.session).holds before) := by
  obtain ⟨answer, rest, hsteps, hrest⟩ := h.creates hwork
  obtain ⟨ensuring, hensuring, -, -, hmakes⟩ :=
    (ensureImage_makesSure k c₁.settings.tinyImage c₁).run h.ensure
  have hsure := hmakes rfl
  exact ⟨ensuring, answer, rest, hensuring, hsteps, hrest, spec.get?_image,
    (hsure.exists_ensures_iff _).mpr (.inl rfl), hsure.exists_ensures_iff _, h.vouched⟩

/-- A command of the caller's own. -/
def commanded (spec : HelperSpec) : HelperSpec := { spec with command := .text "true" }

/-- The image is pulled, and the container is asked for from it. -/
theorem image_commanded : ∃ ensuring request answer rest,
    (runInside (modify commanded) plainWork (bare (.ok ())) standing {}).2.2.steps (bare (.ok ())) =
      ensuring ++ .asked (.client "own" (.createContainer request)) answer :: rest ∧
    request.get? "image" = some (.text "alpine:3.5") ∧
    ∃ x ∈ ensuring, Ensures "own" "alpine:3.5" x := by
  have hlist : ((bare (.ok ())).answer ({} : Journal).events
    (.client "own" (.imagesNamed "alpine:3.5"))).result = .ok [] := rfl
  obtain ⟨ensured, hensure, -⟩ := ensureImage_of_unlisted hlist rfl standing
  have harrives : Arrives (bare (.ok ())) (modify commanded) standing {} "own" standing
      (commanded (.ofImage "session" "alpine:3.5")) {} ensured ensured :=
    ⟨client_of_held rfl rfl rfl _ _, hensure, rfl⟩
  obtain ⟨ensuring, answer, rest, hensuring, hsteps, -, himage, -, hsure, -⟩ :=
    harrives.creation_ensured_iff (uncreating_plainWork "own")
  rw [hensuring] at hsteps
  exact ⟨ensuring, _, answer, rest, hsteps, himage, hsure.mpr (.inl rfl)⟩

/-- An image of the caller's own. -/
def reimaged (spec : HelperSpec) : HelperSpec := { spec with image := "busybox" }

/-- A container is asked for from an image that nobody has looked for. -/
theorem image_reimaged : ∃ request,
    ((runInside (modify reimaged) plainWork smooth standing {}).2.2.steps
      smooth).filterMap Step.creation? = [("own", request)] ∧
    request.get? "image" = some (.text "busybox") ∧
    ¬ ∃ x ∈ (runInside (modify reimaged) plainWork smooth standing {}).2.2.steps smooth,
      Ensures "own" "busybox" x := by
  refine ⟨_, rfl, rfl, ?_⟩
  rintro ⟨x, hx, hensures⟩
  have hsteps : (runInside (modify reimaged) plainWork smooth standing {}).2.2.steps smooth =
      [.asked (.client "own" (.imagesNamed "alpine:3.5")) (.ok ["alpine:3.5"]),
       .asked (.client "own" (.createContainer
         (reimaged (.ofImage "session" "alpine:3.5")).request)) (.ok "helper"),
       .wrote .debug "Created helper container"
         [("container_id", .text "helper"), ("image", .text "busybox")],
       .asked (.client "own" (.startContainer "helper")) (.ok ()),
       .asked (.work (some "own") "helper") (.ok ()),
       .asked (.client "own" (.removeContainer "helper")) (.ok ()),
       .wrote .debug "Removed container" [("container_id", .text "helper")]] := rfl
  rw [hsteps] at hx
  cases hensures with
  | listed => simp at hx
  | pulled => simp [pull] at hx

end Connection

end Mooring
