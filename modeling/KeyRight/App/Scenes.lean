import KeyRight.App.Follows
import KeyRight.App.Glide
import KeyRight.App.SceneDraft
import KeyRight.App.StoreFirst
import KeyRight.App.Target

/-!
Owns scene recalls, as `AtomicScenes` of `firmware/app/src/presets.rs` makes them: a recall is
refused and changes nothing, or commits one complete destination; either way it leaves
no draft.

Does not own the SDK's scene table: a recall is given the extension field sets that the
SDK stages, and the SDK's own answer after them.
-/

namespace KeyRight.App

open KeyRight.Core KeyRight.Support

/-! ### Recalls -/

namespace LightHandler

open Program

variable {K H : Type} [KvBlobStore K] [Hardware H]

/-- The SDK stages the sets in order, until one is refused. -/
def stageScenes : List ExtensionFieldSet → Action K H Unit
  | [] => pure ()
  | set :: rest => do
      stageScene set.cluster set.avps set.durationMs
      stageScenes rest

/-- `invoke` of `AtomicScenes` for a RecallScene, which the SDK answers after staging. -/
def recallScene (sets : List ExtensionFieldSet) (answer : Except ErrorCode Unit) : Action K H Unit := do
  beginScene
  match ← Program.attempt (do stageScenes sets; Program.ofExcept answer) with
  | .error code => do
      abortScene
      Program.fail code
  | .ok () => finishScene

/-- What reaches the light: commands, and scene recalls as a whole. -/
inductive Request where
  | command (command : Command) (whole : ¬command.IsSceneStep)
  | recallScene (sets : List ExtensionFieldSet) (answer : Except ErrorCode Unit)

def invoke : Request → Action K H Unit
  | .command command _ => perform command
  | .recallScene sets answer => LightHandler.recallScene sets answer

/-- The light that a request leaves. -/
def invoked (h : LightHandler K H) (request : Request) : LightHandler K H :=
  ((invoke request).start h).2

/-- What a request returns. -/
def answered (h : LightHandler K H) (request : Request) : Except ErrorCode Unit :=
  ((invoke request).start h).1

/-! ### Staging -/

omit [KvBlobStore K] [Hardware H] in
theorem ends_stageScene {h : LightHandler K H} {draft : SceneDraft} (drafted : h.sceneDraft = some draft)
    {set : ExtensionFieldSet} {post : Except ErrorCode Unit → LightHandler K H → Prop}
    (accepted : ∀ next, stageSet draft set = .ok next → post (.ok ()) { h with sceneDraft := some next })
    (refused : ∀ code, stageSet draft set = .error code → post (.error code) h) :
    Ends (stageScene set.cluster set.avps set.durationMs) h post := by
  simp only [stageScene, ends_bind, ends_read, id_eq, drafted, ends_ite, ends_fail]
  refine ⟨fun long => refused _ (if_pos long), fun short => ?_⟩
  have same : stageSet draft set = _ := if_neg short
  rw [ends_ofExcept, ← same]
  cases staged : stageSet draft set with
  | error code => exact refused code staged
  | ok next => exact accepted next staged

omit [KvBlobStore K] [Hardware H] in
/-- Staging leaves the draft of all sets, or some draft of the sets before the first
refused one. -/
theorem ends_stageScenes {h : LightHandler K H} {draft : SceneDraft}
    (drafted : h.sceneDraft = some draft) (sets : List ExtensionFieldSet) :
    Ends (stageScenes sets) h fun result t =>
      (∃ next, sets.foldlM stageSet draft = .ok next ∧ result = .ok () ∧
        t = { h with sceneDraft := some next }) ∨
      ∃ code last, sets.foldlM stageSet draft = .error code ∧ result = .error code ∧
        t = { h with sceneDraft := some last } := by
  induction sets generalizing h draft with
  | nil =>
      have same : h = { h with sceneDraft := some draft } := by rw [← drafted]
      exact .inl ⟨draft, rfl, rfl, same⟩
  | cons set rest inductionHypothesis =>
      rw [stageScenes, ends_bind]
      refine ends_stageScene drafted (fun next accepted => ?_) fun code refused => ?_
      · have whole : (set :: rest).foldlM stageSet draft = rest.foldlM stageSet next := by
          rw [List.foldlM_cons, accepted]
          rfl
        rw [whole]
        exact inductionHypothesis rfl
      · refine .inr ⟨code, draft, ?_, rfl, by rw [← drafted]⟩
        rw [List.foldlM_cons, refused]
        rfl

omit [KvBlobStore K] [Hardware H] in
/-- Without a target to report, no recall begins. -/
theorem ends_beginScene {h : LightHandler K H} (undrafted : h.sceneDraft = none)
    {post : Except ErrorCode Unit → LightHandler K H → Prop}
    (begins : ∀ target, h.runtime.reported = .ok target →
      post (.ok ()) { h with sceneDraft := some ⟨target, 0, 0⟩ })
    (unknown : ∀ code, h.runtime.reported = .error code → post (.error code) h) :
    Ends beginScene h post := by
  simp only [beginScene, ends_bind, ends_read, id_eq, undrafted, Option.isSome_none,
    Bool.false_eq_true, if_false]
  refine ends_reported ?_
  cases reports : h.runtime.reported with
  | ok target => exact begins target reports
  | error code => exact unknown code reports

/-! ### Ends of a recall -/

/-- The recall was refused and changed nothing but the counters of the light. -/
structure Refused (h t : LightHandler K H) (result : Except ErrorCode Unit) (code : ErrorCode) :
    Prop where
  answered : result = .error code
  runtime : t.runtime = h.runtime
  disposed : t.sceneDraft = none

/-- The recall made one call of the runtime and nothing else. -/
structure Recalled (h t : LightHandler K H) (result : Except ErrorCode Unit) (draft : SceneDraft) :
    Prop where
  answered : result = (h.runtime.outcome (.recallScene draft.target draft.durationMs)).map fun _ => ()
  runtime : t.runtime = h.runtime.after (.recallScene draft.target draft.durationMs)
  disposed : t.sceneDraft = none

/-- How a recall ends: by what its sets make of a draft, and by the SDK's answer. -/
def EndsAs (h t : LightHandler K H) (result : Except ErrorCode Unit) :
    Except ErrorCode SceneDraft → Except ErrorCode Unit → Prop
  | .ok draft, .ok () => Recalled h t result draft
  | .ok _, .error code => Refused h t result code
  | .error code, _ => Refused h t result code

theorem ends_finishScene {h : LightHandler K H} {draft : SceneDraft}
    (drafted : h.sceneDraft = some draft) :
    Ends finishScene h fun result t => Recalled h t result draft := by
  simp only [finishScene, edit, ends_bind, ends_read, ends_update, id_eq, drafted, ends_attempt]
  refine ends_operate_outcome ?_
  dsimp only
  cases answer : (h.runtime.outcome (.recallScene draft.target draft.durationMs)).map fun _ => () with
  | error code =>
      simp only [ends_bind, ends_update, ends_fail]
      exact ⟨answer.symm, rfl, rfl⟩
  | ok _ =>
      simp only [ends_bind, ends_update]
      exact ⟨answer.symm, rfl, rfl⟩

/-- With no draft and a target to report, a recall is refused by the SDK's answer or by
one of its sets, or commits the draft of all of them. -/
theorem ends_recallScene {h : LightHandler K H} (undrafted : h.sceneDraft = none) {target : LightState}
    (reports : h.runtime.reported = .ok target) (sets : List ExtensionFieldSet)
    (answer : Except ErrorCode Unit) :
    Ends (recallScene sets answer) h fun result t =>
      EndsAs h t result (sets.foldlM stageSet ⟨target, 0, 0⟩) answer := by
  rw [recallScene, ends_bind]
  refine ends_beginScene undrafted (fun other known => ?_) fun code unknown => ?_
  · cases reports.symm.trans known
    simp only [ends_attempt, ends_bind]
    refine (ends_stageScenes rfl sets).mono fun result t staged => ?_
    rcases staged with ⟨next, folded, rfl, rfl⟩ | ⟨code, last, folded, rfl, rfl⟩
    · rw [folded, ends_ofExcept]
      cases answer with
      | error code => exact ⟨rfl, rfl, rfl⟩
      | ok _ =>
          refine Ends.mono (ends_finishScene rfl) fun result t recalled => ?_
          exact ⟨recalled.answered, recalled.runtime, recalled.disposed⟩
    · rw [folded]
      exact ⟨rfl, rfl, rfl⟩
  · rw [reports] at unknown
    cases unknown

/-! ### Runs -/

/-- Between two requests, no scene is drafted. -/
structure Idle (h : LightHandler K H) : Prop where
  reachable : h.runtime.Reachable
  undrafted : h.sceneDraft = none

theorem follows_idle : Follows (Idle (K := K) (H := H)) where
  edited := fun _ _ edits idle =>
    ⟨edits.runtime ▸ idle.reachable, edits.sceneDraft.trans idle.undrafted⟩
  operated := fun _ operation idle => ⟨idle.reachable.after operation, idle.undrafted⟩

theorem Idle.refused {h t : LightHandler K H} (idle : h.Idle) {result : Except ErrorCode Unit}
    {code : ErrorCode} (refused : Refused h t result code) : t.Idle :=
  ⟨refused.runtime ▸ idle.reachable, refused.disposed⟩

theorem Idle.invoked {h : LightHandler K H} (idle : h.Idle) (request : Request) :
    (h.invoked request).Idle := by
  change Ends (invoke request) h fun _ t => t.Idle
  cases request with
  | command command whole =>
      have saves : Keeps saveGlobalScene (Idle (K := K) (H := H)) :=
        saveGlobalScene_keeps fun _ _ idle => ⟨idle.reachable, idle.undrafted⟩
      exact follows_idle.perform (fun _ => saves) (fun step => absurd step whole) h idle
  | recallScene sets answer =>
      cases reports : h.runtime.reported with
      | error code =>
          rw [invoke, recallScene, ends_bind]
          refine ends_beginScene idle.undrafted (fun target known => ?_) fun _ _ => idle
          rw [reports] at known
          cases known
      | ok target =>
          refine (ends_recallScene idle.undrafted reports sets answer).mono fun result t ends => ?_
          unfold EndsAs at ends
          split at ends
          · exact ⟨ends.runtime ▸ idle.reachable.after _, ends.disposed⟩
          · exact idle.refused ends
          · exact idle.refused ends

/-- What staging these sets returns, in a light with no draft. -/
def staged (h : LightHandler K H) (sets : List ExtensionFieldSet) : Except ErrorCode Unit :=
  ((do beginScene; stageScenes sets : Action K H Unit).start h).1

omit [KvBlobStore K] [Hardware H] in
theorem staged_eq {h : LightHandler K H} (undrafted : h.sceneDraft = none) {target : LightState}
    (reports : h.runtime.reported = .ok target) (sets : List ExtensionFieldSet) :
    h.staged sets = (sets.foldlM stageSet ⟨target, 0, 0⟩).map fun _ => () := by
  change Ends (do beginScene; stageScenes sets) h fun result _ =>
    result = (sets.foldlM stageSet ⟨target, 0, 0⟩).map fun _ => ()
  rw [ends_bind]
  refine ends_beginScene undrafted (fun other known => ?_) fun code unknown => ?_
  · cases reports.symm.trans known
    refine (ends_stageScenes rfl sets).mono fun result t staged => ?_
    rcases staged with ⟨next, folded, rfl, _⟩ | ⟨code, last, folded, rfl, _⟩
    · rw [folded]
      rfl
    · rw [folded]
      rfl
  · rw [reports] at unknown
    cases unknown

/-- One destination was committed: every listed value, and what was reported at the start
for the rest, saved at most once and before any output. -/
structure Commits (h t : LightHandler K H) (result : Except ErrorCode Unit) (start : LightState)
    (items : List SceneField.Item) (draft : SceneDraft) : Prop extends Recalled h t result draft where
  intended : t.runtime.snapshot.intended = draft.target
  listed : ∀ item ∈ items, ∃ (field : SceneField) (avp : AttributeValuePair),
    item = (field.cluster, .ok avp) ∧ avp.attributeId = .ok field.attributeId ∧
      field.Shows draft.target avp
  unlisted : ∀ field : SceneField, (∀ item ∈ items, ¬field.Lists item) →
    field.Agrees start draft.target
  storesFirst : StoresFirst (h.runtime.events (.recallScene draft.target draft.durationMs))

theorem Recalled.commits {h t : LightHandler K H} {result : Except ErrorCode Unit}
    {draft : SceneDraft} (recalled : Recalled h t result draft) {start : LightState}
    (healthy : h.runtime.Writable) {items : List SceneField.Item}
    (staged : Staged start items draft) (short : draft.durationMs ≤ MAX_TRANSITION_MS) :
    Commits h t result start items draft := by
  refine ⟨recalled, ?_, staged.shows, staged.kept, Runtime.events_storesFirst _ trivial⟩
  have asks : Operation.Asks (.recallScene draft.target draft.durationMs) h.runtime
      (State.recallScenePlan draft.target draft.durationMs h.runtime.state h.runtime.now) :=
    ⟨_, if_neg (Nat.not_lt.mpr short), rfl⟩
  change t.runtime.state.target = draft.target
  rw [recalled.runtime, Runtime.after_target]
  exact (Runtime.plannedTarget_of_asks healthy asks).trans (State.recallScenePlan_target _ _ _ _)

/-- A recall in a reached state that reports a target is all or nothing: if some set, or
the SDK after them, refuses, it returns that error and changes nothing; else it commits one
destination. An attribute listed twice is refused. No draft is left, so another recall
may begin. -/
theorem run_scenes (kv : K) (hardware : H) (datavers : Vector UInt32 3) (requests : List Request)
    (sets : List ExtensionFieldSet) (answer : Except ErrorCode Unit) (start : LightState) :
    let h := runAll invoked (new (Runtime.load kv hardware) datavers) requests
    let t := h.invoked (.recallScene sets answer)
    let result := h.answered (.recallScene sets answer)
    let items := sets.flatMap ExtensionFieldSet.items
    h.runtime.reported = .ok start →
      (∀ code, h.staged sets = .error code → Refused h t result code) ∧
      (∀ code, h.staged sets = .ok () → answer = .error code → Refused h t result code) ∧
      (h.staged sets = .ok () → answer = .ok () → ∃ draft, Commits h t result start items draft) ∧
      (¬items.Pairwise (fun left right => ¬SceneField.Repeats left right) →
        ∃ code, h.staged sets = .error code) ∧
      (beginScene.start t).1 ≠ .error .busy := by
  intro h t result items reports
  have idle : h.Idle :=
    runAll_invariant (fun _ request idle => idle.invoked request) ⟨.load kv hardware, rfl⟩ requests
  have ends : EndsAs h t result (sets.foldlM stageSet ⟨start, 0, 0⟩) answer :=
    ends_recallScene idle.undrafted reports sets answer
  have accepts : ∀ draft, sets.foldlM stageSet ⟨start, 0, 0⟩ = .ok draft →
      Staged start items draft ∧ draft.durationMs ≤ MAX_TRANSITION_MS := fun draft accepted =>
    Staged.sets (Staged.start start) (Nat.zero_le _) accepted
  rw [staged_eq idle.undrafted reports]
  refine ⟨?_, ?_, ?_, ?_, ?_⟩
  · intro code refused
    cases folded : sets.foldlM stageSet ⟨start, 0, 0⟩ with
    | ok draft =>
        rw [folded] at refused
        cases refused
    | error other =>
        rw [folded] at refused ends
        cases refused
        exact ends
  · rintro code accepted rfl
    cases folded : sets.foldlM stageSet ⟨start, 0, 0⟩ with
    | ok draft =>
        rw [folded] at ends
        exact ends
    | error other =>
        rw [folded] at accepted
        cases accepted
  · rintro accepted rfl
    cases folded : sets.foldlM stageSet ⟨start, 0, 0⟩ with
    | ok draft =>
        rw [folded] at ends
        obtain ⟨staged, short⟩ := accepts draft folded
        exact ⟨draft, Recalled.commits ends (idle.reachable.writable (Runtime.reported_eq_ok.mp reports).2.1) staged short⟩
    | error other =>
        rw [folded] at accepted
        cases accepted
  · intro repeated
    cases folded : sets.foldlM stageSet ⟨start, 0, 0⟩ with
    | ok draft => exact absurd (accepts draft folded).1.apart repeated
    | error code => exact ⟨code, rfl⟩
  · change Ends beginScene t fun result _ => result ≠ .error .busy
    have undrafted : t.sceneDraft = none := (idle.invoked (.recallScene sets answer)).undrafted
    refine ends_beginScene undrafted (fun _ _ => by simp) fun code unknown => ?_
    unfold Runtime.reported at unknown
    split at unknown
    · cases unknown
      simp
    · cases unknown

/-- A scene that lists a level is recalled on a lit lamp. -/
theorem run_scenes_level :
    let h := runAll invoked bench [.command (.direct (.tick 0)) id, .command .on id]
    let sets := [⟨8, [.ok ⟨.ok 0, .ok (some 100), .error .invalidCommand⟩], 1000⟩]
    let t := h.invoked (.recallScene sets (.ok ()))
    ∃ draft, Commits h t (h.answered (.recallScene sets (.ok ()))) h.runtime.state.target
      (sets.flatMap ExtensionFieldSet.items) draft := by
  intro h sets t
  have reports : h.runtime.reported = .ok h.runtime.state.target :=
    Runtime.reported_eq_ok.mpr ⟨by decide +kernel, by decide +kernel, rfl⟩
  exact (run_scenes _ _ _ [.command (.direct (.tick 0)) id, .command .on id] sets (.ok ()) _
    reports).2.2.1 (by decide +kernel) rfl

end LightHandler

end KeyRight.App
