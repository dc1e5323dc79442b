import KeyRight.App.LightHandler

/-!
Owns what an accepted scene draft holds: every attribute that was listed, each once, with
its own value, and what was reported at the start for the others.

Does not own the commands around a draft.
-/

namespace KeyRight.App

open KeyRight.Core KeyRight.Support

/-- The attributes of a scene, by cluster and identifier. -/
inductive SceneField where
  | power
  | level
  | temperature
  | mode
deriving DecidableEq, Repr

namespace SceneField

def cluster : SceneField → UInt32
  | .power => 6
  | .level => 8
  | .temperature => 0x300
  | .mode => 0x300

def attributeId : SceneField → UInt32
  | .power => 0
  | .level => 0
  | .temperature => 7
  | .mode => 0x4001

/-- The bit of a draft that stands for the attribute. -/
def bit : SceneField → UInt8
  | .power => 1
  | .level => 2
  | .temperature => 4
  | .mode => 8

/-- The target has the value that the attribute lists. -/
def Shows (target : LightState) (avp : AttributeValuePair) : SceneField → Prop
  | .power => avp.valueUnsigned8 = .ok (some (if target.on then 1 else 0))
  | .level => ∃ value, avp.valueUnsigned8 = .ok (some value) ∧
      Level.new value.toNat = some target.level
  | .temperature => ∃ value, avp.valueUnsigned16 = .ok (some value) ∧
      ColorTemperature.new value.toNat = some target.temperature
  | .mode => avp.valueUnsigned8 = .ok (some LightHandler.COLOR_TEMPERATURE_MIREDS)

/-- Two targets agree on the attribute. -/
def Agrees (start target : LightState) : SceneField → Prop
  | .power => target.on = start.on
  | .level => target.level = start.level
  | .temperature => target.temperature = start.temperature
  | .mode => True

theorem Agrees.refl (target : LightState) (field : SceneField) : field.Agrees target target := by
  cases field with
  | mode => trivial
  | _ => rfl

theorem Agrees.trans {first second third : LightState} {field : SceneField}
    (left : field.Agrees first second) (right : field.Agrees second third) :
    field.Agrees first third := by
  cases field with
  | power => exact Eq.trans right left
  | level => exact Eq.trans right left
  | temperature => exact Eq.trans right left
  | mode => trivial

/-- A value stays shown where the attribute is left alone. -/
theorem Shows.agrees {before after : LightState} {avp : AttributeValuePair} {field : SceneField}
    (shows : field.Shows before avp) (agrees : field.Agrees before after) : field.Shows after avp := by
  cases field with
  | power =>
      rw [Shows, show after.on = before.on from agrees]
      exact shows
  | level =>
      obtain ⟨value, listed, same⟩ := shows
      exact ⟨value, listed, by rw [same, show after.level = before.level from agrees]⟩
  | temperature =>
      obtain ⟨value, listed, same⟩ := shows
      exact ⟨value, listed, by rw [same, show after.temperature = before.temperature from agrees]⟩
  | mode => exact shows

/-- An attribute of a scene, with the cluster that lists it. -/
abbrev Item : Type := UInt32 × Except ErrorCode AttributeValuePair

/-- The item lists this attribute. -/
def Lists (field : SceneField) (item : Item) : Prop :=
  item.1 = field.cluster ∧ ∃ avp, item.2 = .ok avp ∧ avp.attributeId = .ok field.attributeId

/-- The items list one attribute, of this light or not. -/
def Repeats (left right : Item) : Prop :=
  left.1 = right.1 ∧ ∃ first second id, left.2 = .ok first ∧ right.2 = .ok second ∧
    first.attributeId = .ok id ∧ second.attributeId = .ok id

theorem attributeId_inj : ∀ left right : SceneField, left.cluster = right.cluster →
    left.attributeId = right.attributeId → left = right := by
  intro left right
  cases left <;> cases right <;> decide

theorem Lists.unique {left right : SceneField} {item : Item} (first : left.Lists item)
    (second : right.Lists item) : left = right := by
  obtain ⟨cluster, avp, known, identified⟩ := first
  obtain ⟨sameCluster, other, same, otherwise⟩ := second
  cases known.symm.trans same
  apply attributeId_inj
  · exact cluster.symm.trans sameCluster
  · exact Except.ok.inj (identified.symm.trans otherwise)

/-- The bits of two attributes overlap only if they are the same. -/
theorem bit_and_bit : ∀ left right : SceneField, left.bit &&& right.bit ≠ 0 ↔ left = right := by
  intro left right
  cases left <;> cases right <;> decide

end SceneField

/-! ### One attribute -/

namespace LightHandler

/-- An accepted attribute is one of the four, and changes only itself. -/
theorem stageValue_ok {cluster id : UInt32} {draft staged : SceneDraft} {avp : AttributeValuePair}
    {bit : UInt8} (accepted : stageValue cluster draft avp id = .ok (staged, bit)) :
    ∃ field : SceneField, field.cluster = cluster ∧ field.attributeId = id ∧ field.bit = bit ∧
      field.Shows staged.target avp ∧ staged.fields = draft.fields ∧
      staged.durationMs = draft.durationMs ∧
      ∀ other, other ≠ field → other.Agrees draft.target staged.target := by
  unfold stageValue at accepted
  split at accepted
  · next power =>
      obtain ⟨rfl, rfl⟩ := power
      obtain ⟨value, listed, accepted⟩ := of_bind_ok accepted
      refine ⟨.power, rfl, rfl, ?_⟩
      split at accepted
      · cases accepted
        exact ⟨rfl, listed, rfl, rfl, fun other apart => by cases other <;> trivial⟩
      · cases accepted
        exact ⟨rfl, listed, rfl, rfl, fun other apart => by cases other <;> trivial⟩
      · cases accepted
  split at accepted
  · next level =>
      obtain ⟨rfl, rfl⟩ := level
      obtain ⟨value, listed, accepted⟩ := of_bind_ok accepted
      split at accepted
      · next level bound =>
          cases accepted
          obtain ⟨raw, rfl, legal⟩ := Option.bind_eq_some_iff.mp bound
          refine ⟨.level, rfl, rfl, rfl, ⟨raw, listed, legal⟩, rfl, rfl, ?_⟩
          exact fun other apart => by cases other <;> trivial
      · cases accepted
  split at accepted
  · next temperature =>
      obtain ⟨rfl, rfl⟩ := temperature
      obtain ⟨value, listed, accepted⟩ := of_bind_ok accepted
      split at accepted
      · next temperature bound =>
          cases accepted
          obtain ⟨raw, rfl, legal⟩ := Option.bind_eq_some_iff.mp bound
          refine ⟨.temperature, rfl, rfl, rfl, ⟨raw, listed, legal⟩, rfl, rfl, ?_⟩
          exact fun other apart => by cases other <;> trivial
      · cases accepted
  split at accepted
  · next mode =>
      obtain ⟨rfl, rfl⟩ := mode
      obtain ⟨value, listed, accepted⟩ := of_bind_ok accepted
      split at accepted
      · next same =>
          cases accepted
          refine ⟨.mode, rfl, rfl, rfl, ?_, rfl, rfl, fun other _ => .refl _ other⟩
          exact listed.trans (congrArg _ same)
      · cases accepted
  · cases accepted

/-- An accepted attribute was not listed before. -/
theorem stageAttribute_ok {cluster : UInt32} {draft next : SceneDraft}
    {item : Except ErrorCode AttributeValuePair}
    (accepted : stageAttribute cluster draft item = .ok next) :
    ∃ (field : SceneField) (avp : AttributeValuePair), field.cluster = cluster ∧ item = .ok avp ∧ avp.attributeId = .ok field.attributeId ∧
      field.Shows next.target avp ∧ draft.fields &&& field.bit = 0 ∧
      next.fields = draft.fields ||| field.bit ∧ next.durationMs = draft.durationMs ∧
      ∀ other : SceneField, other ≠ field → other.Agrees draft.target next.target := by
  unfold stageAttribute at accepted
  obtain ⟨avp, given, accepted⟩ := of_bind_ok accepted
  obtain ⟨id, identified, accepted⟩ := of_bind_ok accepted
  obtain ⟨⟨staged, bit⟩, staging, accepted⟩ := of_bind_ok accepted
  obtain ⟨field, rfl, rfl, rfl, shows, _, duration, agrees⟩ := stageValue_ok staging
  dsimp only at accepted
  split at accepted
  · cases accepted
  · next fresh =>
      cases accepted
      exact ⟨field, avp, rfl, given, identified, shows, not_not.mp fresh, rfl, duration, agrees⟩

/-! ### Many attributes -/

/-- The draft after these items, from what was reported at the start. -/
structure Staged (start : LightState) (items : List SceneField.Item) (draft : SceneDraft) : Prop where
  shows : ∀ item ∈ items, ∃ (field : SceneField) (avp : AttributeValuePair), item = (field.cluster, .ok avp) ∧
    avp.attributeId = .ok field.attributeId ∧ field.Shows draft.target avp
  once : items.Pairwise fun left right => ∀ field : SceneField, field.Lists left → ¬field.Lists right
  kept : ∀ field : SceneField, (∀ item ∈ items, ¬field.Lists item) → field.Agrees start draft.target
  bits : ∀ field : SceneField, draft.fields &&& field.bit ≠ 0 ↔ ∃ item ∈ items, field.Lists item

/-- A draft has no attribute twice. -/
theorem Staged.apart {start : LightState} {items : List SceneField.Item} {draft : SceneDraft}
    (staged : Staged start items draft) :
    items.Pairwise fun left right => ¬SceneField.Repeats left right := by
  refine staged.once.imp_of_mem fun {left right} member _ once repeats => ?_
  obtain ⟨cluster, first, second, id, listed, again, identified, same⟩ := repeats
  obtain ⟨field, avp, rfl, otherwise, _⟩ := staged.shows left member
  cases listed
  cases otherwise.symm.trans identified
  exact once field ⟨rfl, first, rfl, otherwise⟩ ⟨cluster.symm, second, again, same⟩

theorem Staged.start (start : LightState) : Staged start [] ⟨start, 0, 0⟩ := by
  refine ⟨by simp, .nil, fun field _ => .refl start field, fun field => ?_⟩
  simp

theorem or_and_ne_zero (left right mask : UInt8) :
    (left ||| right) &&& mask ≠ 0 ↔ left &&& mask ≠ 0 ∨ right &&& mask ≠ 0 := by
  have split : (left ||| right) &&& mask = left &&& mask ||| right &&& mask := by
    rw [← UInt8.toBitVec_inj]
    exact BitVec.and_or_distrib_right
  rw [split, Ne, UInt8.or_eq_zero_iff, not_and_or]

theorem Staged.attribute {start : LightState} {items : List SceneField.Item}
    {draft next : SceneDraft} {cluster : UInt32} {item : Except ErrorCode AttributeValuePair}
    (staged : Staged start items draft) (accepted : stageAttribute cluster draft item = .ok next) :
    Staged start (items ++ [(cluster, item)]) next := by
  obtain ⟨field, avp, rfl, rfl, identified, shown, fresh, fields, _, agrees⟩ :=
    stageAttribute_ok accepted
  have lists : field.Lists (field.cluster, .ok avp) := ⟨rfl, avp, rfl, identified⟩
  have apart : ∀ other : SceneField, (∃ item ∈ items, other.Lists item) → other ≠ field := by
    rintro other listed rfl
    exact (staged.bits other).mpr listed fresh
  refine ⟨?_, ?_, ?_, ?_⟩
  · intro entry member
    rcases List.mem_append.mp member with before | last
    · obtain ⟨other, value, rfl, otherwise, shows⟩ := staged.shows entry before
      have different := apart other ⟨_, before, rfl, value, rfl, otherwise⟩
      exact ⟨other, value, rfl, otherwise, shows.agrees (agrees other different)⟩
    · cases List.mem_singleton.mp last
      exact ⟨field, avp, rfl, identified, shown⟩
  · refine List.pairwise_append.mpr ⟨staged.once, List.pairwise_singleton _ _, ?_⟩
    intro left before right last other first second
    cases List.mem_singleton.mp last
    exact apart other ⟨left, before, first⟩ (second.unique lists)
  · intro other unlisted
    have before := staged.kept other fun item member => unlisted item (List.mem_append_left _ member)
    refine before.trans (agrees other ?_)
    rintro rfl
    exact unlisted _ (by simp) lists
  · intro other
    rw [fields, or_and_ne_zero, staged.bits, SceneField.bit_and_bit]
    constructor
    · rintro (⟨item, member, listed⟩ | rfl)
      · exact ⟨item, List.mem_append_left _ member, listed⟩
      · exact ⟨_, by simp, lists⟩
    · rintro ⟨item, member, listed⟩
      rcases List.mem_append.mp member with before | last
      · exact .inl ⟨item, before, listed⟩
      · cases List.mem_singleton.mp last
        exact .inr (lists.unique listed)

theorem Staged.attributes {start : LightState} {items : List SceneField.Item}
    {draft next : SceneDraft} {cluster : UInt32} {avps : List (Except ErrorCode AttributeValuePair)}
    (staged : Staged start items draft)
    (accepted : avps.foldlM (stageAttribute cluster) draft = .ok next) :
    Staged start (items ++ avps.map (Prod.mk cluster)) next ∧ next.durationMs = draft.durationMs := by
  induction avps generalizing items draft with
  | nil =>
      cases accepted
      exact ⟨by simpa using staged, rfl⟩
  | cons item rest inductionHypothesis =>
      rw [List.foldlM_cons] at accepted
      cases first : stageAttribute cluster draft item with
      | error code =>
          rw [first] at accepted
          cases accepted
      | ok middle =>
          rw [first] at accepted
          obtain ⟨_, _, _, _, _, _, _, _, duration, _⟩ := stageAttribute_ok first
          obtain ⟨reached, last⟩ := inductionHypothesis (staged.attribute first) accepted
          rw [List.append_assoc] at reached
          exact ⟨reached, last.trans duration⟩

/-! ### Extension field sets -/

/-- What a scene stores for one cluster. -/
structure ExtensionFieldSet where
  cluster : UInt32
  avps : List (Except ErrorCode AttributeValuePair)
  durationMs : Nat

def ExtensionFieldSet.items (set : ExtensionFieldSet) : List SceneField.Item :=
  set.avps.map (Prod.mk set.cluster)

/-- The draft with the attributes of one more cluster. -/
def stageSet (draft : SceneDraft) (set : ExtensionFieldSet) : Except ErrorCode SceneDraft :=
  if 60000000 < set.durationMs then throw .constraintError
  else set.avps.foldlM (stageAttribute set.cluster) { draft with durationMs := set.durationMs }

theorem Staged.set {start : LightState} {items : List SceneField.Item} {draft next : SceneDraft}
    {set : ExtensionFieldSet} (staged : Staged start items draft)
    (accepted : stageSet draft set = .ok next) :
    Staged start (items ++ set.items) next ∧ next.durationMs ≤ MAX_TRANSITION_MS := by
  unfold stageSet at accepted
  split at accepted
  · cases accepted
  · next short =>
      have timed : Staged start items { draft with durationMs := set.durationMs } :=
        ⟨staged.shows, staged.once, staged.kept, staged.bits⟩
      obtain ⟨reached, duration⟩ := timed.attributes accepted
      exact ⟨reached, duration.le.trans (Nat.not_lt.mp short)⟩

theorem Staged.sets {start : LightState} {items : List SceneField.Item} {draft next : SceneDraft}
    {sets : List ExtensionFieldSet} (staged : Staged start items draft)
    (short : draft.durationMs ≤ MAX_TRANSITION_MS) (accepted : sets.foldlM stageSet draft = .ok next) :
    Staged start (items ++ sets.flatMap ExtensionFieldSet.items) next ∧
      next.durationMs ≤ MAX_TRANSITION_MS := by
  induction sets generalizing items draft with
  | nil =>
      cases accepted
      exact ⟨by simpa using staged, short⟩
  | cons set rest inductionHypothesis =>
      rw [List.foldlM_cons] at accepted
      cases first : stageSet draft set with
      | error code =>
          rw [first] at accepted
          cases accepted
      | ok middle =>
          rw [first] at accepted
          obtain ⟨reached, shortMiddle⟩ := staged.set first
          obtain ⟨whole, shortLast⟩ := inductionHypothesis reached shortMiddle accepted
          rw [List.append_assoc] at whole
          exact ⟨whole, shortLast⟩

end LightHandler

end KeyRight.App
