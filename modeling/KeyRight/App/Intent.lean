import KeyRight.App.Acknowledgement

/-!
Owns dark intent: in runs of ticks, local Off, remembered settings and reads, light
needs a saved On that was decoded from the store, and no local Off before.

Does not own runs with commands that may switch the lamp on.
-/

namespace KeyRight.App

open KeyRight.Core

variable {K H : Type}

/-- Operations that never ask for On by themselves. -/
def Operation.Unlit : Operation → Prop
  | .tick _ => True
  | .off => True
  | .setLevel _ withOnOff => withOnOff = false
  | .setLevelTransition _ withOnOff _ => withOnOff = false
  | .setLevelRate _ withOnOff _ => withOnOff = false
  | .setTemperature _ => True
  | .setTemperatureTransition _ _ => True
  | .setTemperatureRate _ _ => True
  | .setStartup _ => True
  | .setStartupLevel _ => True
  | .setStartupTemperature _ => True
  | .verify => True
  | .registers => True
  | _ => False

def Operation.isOff : Operation → Bool
  | .off => true
  | _ => false

/-- A load decoded a record with On intent and a start-up policy other than Off. -/
def SavedOn (trace : List (Event K H)) : Prop :=
  ∃ bytes saved, Event.load (.ok (some bytes)) ∈ trace ∧ decodeRecord bytes = .ok saved ∧
    saved.intended.on = true ∧ saved.startup.power ≠ 1

theorem SavedOn.cons {event : Event K H} {trace : List (Event K H)} (savedOn : SavedOn trace) :
    SavedOn (event :: trace) := by
  obtain ⟨bytes, saved, member, decoded⟩ := savedOn
  exact ⟨bytes, saved, List.mem_cons_of_mem _ member, decoded⟩

theorem SavedOn.of_load {found : Except ErrorCode (Option (List UInt8))} {saved : SavedState}
    {trace : List (Event K H)} (decoded : Runtime.savedState found = .ok saved)
    (on : (startupIntent saved.intended saved.startup).on = true) :
    SavedOn (.load found :: trace) := by
  rcases found with code | _ | bytes
  · cases decoded
  · cases decoded
    cases on
  · exact ⟨bytes, saved, List.mem_cons_self, decoded, startupIntent_on on⟩

/-! ### Plans -/

/-- A remembered setting keeps the power, and installs a level track only while On. -/
theorem Operation.Unlit.plan {operation : Operation} (unlit : operation.Unlit) {s : State H}
    {now : Nat} {plan : Plan} (asked : Asked s now operation plan) :
    plan.target.on = s.target.on ∧
      (plan.levelTransition ≠ none → s.target.on = true ∨ s.levelTransition ≠ none) := by
  cases asked with
  | scene target durationMs is =>
      rcases is with rfl | rfl
      · exact unlit.elim
      · exact unlit.elim
  | power on is =>
      subst is
      exact unlit.elim
  | effect effect is =>
      subst is
      exact unlit.elim
  | stopLevel _ is stops =>
      subst is
      exact unlit.elim
  | stopTemperature _ is stops =>
      subst is
      exact unlit.elim
  | temperature temperature durationMs curve => exact ⟨rfl, .inr⟩
  | level level valid withOnOff durationMs curve is =>
      have remembered : withOnOff = false := by
        cases operation with
        | setLevel _ coupled => exact (Option.some.inj is).symm.trans unlit
        | setLevelTransition _ coupled _ => exact (Option.some.inj is).symm.trans unlit
        | setLevelRate _ coupled _ => exact (Option.some.inj is).symm.trans unlit
        | _ => cases is
      subst remembered
      rcases State.levelTransitionPlan_cases level valid false durationMs curve s now with
        ⟨_, kept⟩ | ⟨lit, target, _, _⟩
      · rw [kept]
        exact ⟨rfl, .inr⟩
      · rw [target]
        refine ⟨rfl, fun _ => .inl ?_⟩
        rcases lit with on | on | wrong
        · exact on
        · exact on
        · cases wrong

/-! ### Invariant -/

/-- `offed` tells whether local Off was called. Since `past`, light was applied only
after a saved On was decoded and without a local Off. -/
structure Dim (past : List (Event K H)) (offed : Bool) (r : Runtime K H) : Prop where
  grows : past <:+ r.trace
  logged : ∀ stored held frame ok older,
    (Event.applyFrame stored held frame ok :: older) <:+ r.trace →
      past <:+ older → frame.brightness ≠ OutputBrightness.ZERO → offed = false ∧ SavedOn older
  lit : r.state.target.on = true → offed = false ∧ SavedOn r.trace
  tracked : r.state.levelTransition ≠ none → r.state.target.on = true
  deferred : r.state.loadFault = some .storage →
    r.state.levelTransition = none ∧ (offed = true → r.state.offAfterLoad = true)

/-- A local Off counts from its first outside call. -/
def DimAt (past : List (Event K H)) (offed : Bool) (operation : Operation) :
    Phase → Runtime K H → Prop
  | .called, r => r.trace = past ∧ Dim past offed r
  | _, r => Dim past (offed || operation.isOff) r

section

variable {past : List (Event K H)} {offed : Bool} {operation : Operation}

/-- Nothing was applied between a trace and itself. -/
theorem nothing_since {event : Event K H} {older : List (Event K H)}
    (suffix : (event :: older) <:+ past) (since : past <:+ older) : False := by
  have shorter := suffix.length_le
  have longer := since.length_le
  simp only [List.length_cons] at shorter
  omega

/-- A new operation starts its own past. -/
theorem Dim.rebase {r : Runtime K H} (dim : Dim past offed r) : Dim r.trace offed r :=
  ⟨List.suffix_rfl, fun _ _ _ _ _ suffix since _ => (nothing_since suffix since).elim,
    dim.lit, dim.tracked, dim.deferred⟩

theorem Dim.called {r : Runtime K H} (dim : Dim past offed r) (other : operation ≠ .off) :
    Dim past (offed || operation.isOff) r := by
  cases operation with
  | off => exact absurd rfl other
  | _ => simpa only [Operation.isOff, Bool.or_false] using dim

/-- Light that a dim state calls for is backed by a saved On. -/
theorem Dim.lights {r : Runtime K H} (dim : Dim past offed r) {now : Nat}
    (bright : (r.state.effective now).brightness ≠ OutputBrightness.ZERO) :
    offed = false ∧ SavedOn r.trace := by
  apply dim.lit
  by_contra off
  have inactive : r.state.levelTransition = none := by
    by_contra active
    exact off (dim.tracked active)
  apply bright
  rw [State.effective_brightness_of_none inactive]
  exact OutputFrame.fromState_brightness_of_off (by simpa using off)

theorem Dim.shown {r : Runtime K H} (dim : Dim past offed r) (hardware : H) (ok : Bool) :
    ∀ stored held frame shown older,
      (Event.applyFrame stored held frame shown :: older) <:+
        ((r.onState fun s => s.intend (s.effective r.now)).shown (r.state.effective r.now)
          hardware ok).trace →
        past <:+ older → frame.brightness ≠ OutputBrightness.ZERO →
          offed = false ∧ SavedOn older := by
  intro stored held frame shown older suffix since bright
  rcases List.suffix_cons_iff.mp suffix with same | earlier
  · obtain ⟨head, tail⟩ := List.cons.inj same
    cases head
    rw [tail]
    exact dim.lights bright
  · exact dim.logged _ _ _ _ _ earlier since bright

/-- A call other than an application, with the same power and no new track. -/
theorem Dim.cons {r t : Runtime K H} (dim : Dim past offed r) {event : Event K H}
    (other : event.applies = false) (trace : t.trace = event :: r.trace)
    (target : t.state.target.on = r.state.target.on)
    (level : t.state.levelTransition ≠ none → r.state.levelTransition ≠ none)
    (pending : t.state.loadFault = some .storage →
      r.state.loadFault = some .storage ∧ t.state.offAfterLoad = r.state.offAfterLoad) :
    Dim past offed t := by
  obtain ⟨grows, logged, lit, tracked, deferred⟩ := dim
  refine ⟨?_, ?_, fun on => ?_, fun active => ?_, fun storage => ?_⟩
  · rw [trace]
    exact grows.trans (List.suffix_cons event r.trace)
  · rw [trace]
    exact applied_cons other logged
  · rw [trace]
    obtain ⟨never, savedOn⟩ := lit (target ▸ on)
    exact ⟨never, savedOn.cons⟩
  · rw [target]
    exact tracked (level active)
  · obtain ⟨before, same⟩ := pending storage
    obtain ⟨inactive, called⟩ := deferred before
    rw [same]
    refine ⟨?_, called⟩
    by_contra active
    exact level active inactive

/-- An ended track leaves no light behind. -/
theorem Dim.expire {r t : Runtime K H} (dim : Dim past offed r) (trace : t.trace = r.trace)
    (target : t.state.target = r.state.target)
    (level : t.state.levelTransition = (r.state.expire r.now).levelTransition)
    (readable : t.state.loadFault = none) : Dim past offed t := by
  refine ⟨?_, ?_, fun on => ?_, fun active => ?_, fun storage => ?_⟩
  · rw [trace]
    exact dim.grows
  · rw [trace]
    exact dim.logged
  · rw [trace]
    exact dim.lit (target ▸ on)
  · rw [target]
    exact dim.tracked (State.expire_level (level ▸ active))
  · rw [readable] at storage
    cases storage

/-- A retried load honours a local Off that came before it. -/
theorem Dim.load [KvBlobStore K] {r : Runtime K H} (dim : Dim past offed r) {saved : SavedState}
    (pending : r.state.loadFault = some .storage)
    (found : Runtime.savedState (KvBlobStore.load r.kv (INTENT_KEY K)).1 = .ok saved) :
    Dim past offed
      ((r.accessed (KvBlobStore.load r.kv (INTENT_KEY K)).2
        (.load (KvBlobStore.load r.kv (INTENT_KEY K)).1)).onState fun s => s.loaded saved) := by
  obtain ⟨inactive, called⟩ := dim.deferred pending
  refine ⟨dim.grows.trans (List.suffix_cons _ _), applied_cons rfl dim.logged, fun on => ?_,
    fun active => absurd inactive active, fun storage => nomatch storage⟩
  have target : (r.state.loaded saved).target.on = true := on
  simp only [State.loaded] at target
  split at target
  · cases target
  · next undeferred =>
      refine ⟨?_, SavedOn.of_load found target⟩
      by_contra offed
      exact undeferred (called (by simpa using offed))

/-- Local Off as the first call of its operation. -/
theorem Dim.darkened {t : Runtime K H} {event : Event K H} (other : event.applies = false)
    (trace : t.trace = event :: past) (off : t.state.target.on = false)
    (inactive : t.state.levelTransition = none)
    (deferred : t.state.loadFault = some .storage → offed = true → t.state.offAfterLoad = true) :
    Dim past offed t := by
  refine ⟨?_, ?_, fun on => ?_, fun active => absurd inactive active,
    fun storage => ⟨inactive, deferred storage⟩⟩
  · rw [trace]
    exact List.suffix_cons event past
  · rw [trace]
    refine applied_cons other ?_
    intro _ _ _ _ _ suffix since _
    exact (nothing_since suffix since).elim
  · rw [off] at on
    cases on

theorem DimAt.move [KvBlobStore K] (unlit : operation.Unlit) {phase next : Phase}
    {r t : Runtime K H} (move : Move operation (phase, r) (next, t))
    (truthful : Truthful phase r) (dim : DimAt past offed operation phase r) :
    DimAt past offed operation next t := by
  have clean := truthful.clean
  cases move with
  | clock _ now tick =>
      obtain ⟨same, dim⟩ := dim
      exact ⟨same, dim.grows, dim.logged, dim.lit, dim.tracked, dim.deferred⟩
  | leave _ other _ _ => exact dim.2.called other
  | resume _ tick running due => exact dim.2.called tick.ne_off
  | load _ saved tick running pending due found => exact (dim.2.called tick.ne_off).load pending found
  | loadFailed _ fault tick running pending found =>
      exact (dim.2.called tick.ne_off).cons rfl rfl rfl id fun _ => ⟨pending, rfl⟩
  | plan _ plan writable asks =>
      have dim := dim.2.called (Operation.ne_off_of_plan asks.choose_spec.1)
      obtain ⟨power, tracked⟩ := unlit.plan asks.asked
      refine ⟨dim.grows, dim.logged, fun on => dim.lit (power ▸ on), fun active => ?_,
        fun storage => ?_⟩
      · exact power.trans ((tracked active).elim id dim.tracked)
      · have impossible : some Fault.storage = none := storage.symm.trans writable.2
        cases impossible
  | localOff _ hardware ok off readable =>
      obtain ⟨rfl, dim⟩ := dim
      exact .darkened rfl rfl rfl rfl fun storage => absurd storage readable
  | deferOff _ hardware ok off pending =>
      obtain ⟨rfl, dim⟩ := dim
      exact .darkened rfl rfl rfl rfl fun _ _ => rfl
  | startup _ startup asked writable stored =>
      exact (dim.2.called asked.ne_off).cons rfl rfl rfl id fun storage => ⟨storage, rfl⟩
  | startupRefused _ startup code asked writable refused =>
      exact (dim.2.called asked.ne_off).cons rfl rfl rfl id fun storage => ⟨storage, rfl⟩
  | verified _ frame hardware check known =>
      exact (dim.2.called check.ne_off).cons rfl rfl rfl id fun storage => ⟨storage, rfl⟩
  | refuted _ frame hardware check known =>
      exact (dim.2.called check.ne_off).cons rfl rfl rfl id fun storage => ⟨storage, rfl⟩
  | read _ hardware registers =>
      subst registers
      have dim : Dim past (offed || Operation.registers.isOff) r := dim.2.called nofun
      exact dim.cons rfl rfl rfl id fun storage => ⟨storage, rfl⟩
  | unread _ hardware registers =>
      subst registers
      have dim : Dim past (offed || Operation.registers.isOff) r := dim.2.called nofun
      exact dim.cons rfl rfl rfl id fun storage => ⟨storage, rfl⟩
  | latch _ hardware ok reboot =>
      subst reboot
      exact unlit.elim
  | clean _ clean => exact dim
  | store _ dirty stored => exact dim.cons rfl rfl rfl id fun storage => ⟨storage, rfl⟩
  | storeFailed _ hardware ok code dirty refused =>
      have stored : Dim past (offed || operation.isOff)
          (r.accessed (KvBlobStore.store r.kv (INTENT_KEY K)
            (encodeRecord r.state.target r.state.startup)).2
            (.store (encodeRecord r.state.target r.state.startup) false)) :=
        dim.cons rfl rfl rfl id fun storage => ⟨storage, rfl⟩
      exact stored.cons rfl rfl rfl id fun storage => ⟨storage, rfl⟩
  | proceed _ readable => exact dim
  | repaired _ off =>
      exact ⟨dim.grows, dim.logged, dim.lit, dim.tracked, fun storage => nomatch storage⟩
  | unstopped _ off => exact dim
  | known _ known => exact dim
  | ease _ hardware unknown =>
      refine ⟨dim.grows.trans (List.suffix_cons _ _), applied_cons rfl dim.logged, fun on => ?_,
        fun active => ?_, fun storage => ?_⟩
      · obtain ⟨never, savedOn⟩ := dim.lit on
        exact ⟨never, savedOn.cons⟩
      · by_contra off
        exact active (if_neg off)
      · have impossible : some Fault.storage = none := storage.symm.trans clean.2
        cases impossible
  | unproven _ hardware unknown => exact dim.cons rfl rfl rfl id fun storage => ⟨storage, rfl⟩
  | rest _ tick same => exact dim.expire rfl rfl rfl clean.2
  | check _ hardware tick same =>
      exact dim.cons rfl rfl rfl State.expire_level fun storage => ⟨storage, rfl⟩
  | checkFailed _ hardware tick same =>
      exact dim.cons rfl rfl rfl State.expire_level fun storage => ⟨storage, rfl⟩
  | steady _ same => exact dim.expire rfl rfl rfl clean.2
  | apply _ hardware differs =>
      refine ⟨dim.grows.trans (List.suffix_cons _ _), dim.shown hardware true, fun on => ?_,
        fun active => dim.tracked (State.expire_level active), fun storage => ?_⟩
      · obtain ⟨never, savedOn⟩ := dim.lit on
        exact ⟨never, savedOn.cons⟩
      · have impossible : some Fault.storage = none := storage.symm.trans clean.2
        cases impossible
  | applyFailed _ hardware differs =>
      refine ⟨dim.grows.trans (List.suffix_cons _ _), dim.shown hardware false, fun on => ?_,
        dim.tracked, dim.deferred⟩
      obtain ⟨never, savedOn⟩ := dim.lit on
      exact ⟨never, savedOn.cons⟩
  | giveUp _ hardware ok => exact dim.cons rfl rfl rfl id fun storage => ⟨storage, rfl⟩

/-! ### Runs -/

variable [KvBlobStore K] [Hardware H]

theorem Dim.after {r : Runtime K H} (dim : Dim r.trace offed r) (unlit : operation.Unlit)
    (reachable : r.Reachable) : Dim r.trace (offed || operation.isOff) (r.after operation) :=
  ((Runtime.after_moves r operation).preserve
    (fun phase t => Truthful phase t ∧ DimAt r.trace offed operation phase t)
    (fun move before => ⟨before.1.move move, before.2.move unlit move before.1⟩)
    ⟨reachable.truthful, rfl, dim⟩).2

/-- A boot is dark unless it decoded a saved On. -/
theorem Dim.boot (kv : K) (hardware : H) :
    Dim (Runtime.load kv hardware).trace false (Runtime.load kv hardware) := by
  refine ⟨List.suffix_rfl, fun _ _ _ _ _ suffix since _ => (nothing_since suffix since).elim,
    fun on => ⟨rfl, ?_⟩, fun active => absurd rfl active, fun _ => ⟨rfl, nofun⟩⟩
  cases found : Runtime.savedState (KvBlobStore.load kv (INTENT_KEY K)).1 with
  | ok saved =>
      simp only [Runtime.load, found, Except.toOption, Option.getD_some] at on ⊢
      exact SavedOn.of_load found on
  | error fault =>
      simp only [Runtime.load, found, Except.toOption, Option.getD_none] at on
      cases on

theorem Dim.run {r : Runtime K H} (dim : Dim r.trace offed r) (reachable : r.Reachable)
    {operations : List Operation} (unlit : ∀ operation ∈ operations, operation.Unlit) :
    Dim (r.run operations).trace (offed || operations.any Operation.isOff) (r.run operations) := by
  induction operations generalizing r offed with
  | nil => simpa [Runtime.run] using dim
  | cons operation rest inductionHypothesis =>
      have stepped := (dim.after (unlit operation List.mem_cons_self) reachable).rebase
      have finished := inductionHypothesis stepped (reachable.after operation)
        fun later member => unlit later (List.mem_cons_of_mem _ member)
      rw [List.any_cons, ← Bool.or_assoc]
      exact finished

end

/-- In a run of operations that never ask for On, light is applied only after a
record with On intent and a start-up policy other than Off was decoded, and never
after a local Off was called. -/
theorem Runtime.run_darkIntent [KvBlobStore K] [Hardware H] (kv : K) (hardware : H)
    (operations : List Operation) (operation : Operation)
    (unlit : ∀ other ∈ operations ++ [operation], other.Unlit) :
    let r := run (load kv hardware) operations
    ∀ stored held frame ok older,
      (Event.applyFrame stored held frame ok :: older) <:+ (r.after operation).trace →
        r.trace <:+ older → frame.brightness ≠ OutputBrightness.ZERO →
          Operation.off ∉ operations ++ [operation] ∧ SavedOn older := by
  intro r stored held frame ok older suffix since bright
  have dim : Dim r.trace (operations.any Operation.isOff) r := by
    simpa using (Dim.boot kv hardware).run (Reachable.load kv hardware)
      fun other member => unlit other (List.mem_append_left _ member)
  have last := dim.after (unlit operation (by simp)) ((Reachable.load kv hardware).run operations)
  obtain ⟨never, savedOn⟩ := last.logged stored held frame ok older suffix since bright
  refine ⟨fun member => ?_, savedOn⟩
  have called : (operations ++ [operation]).any Operation.isOff = true :=
    List.any_eq_true.mpr ⟨.off, member, rfl⟩
  rw [List.any_append] at called
  simp only [List.any_cons, List.any_nil, Bool.or_false] at called
  rw [never] at called
  cases called

/-- A restored On lights up only because its record was decoded. -/
theorem Runtime.run_darkIntent_restored :
    SavedOn (run (bench (some (encodeRecord { (default : LightState) with on := true } default)))
      [.tick 20]).trace :=
  (run_darkIntent _ _ [.tick 20] (.tick 220) (by simp [Operation.Unlit]) _ _ _ true _
    List.suffix_rfl List.suffix_rfl (by decide +kernel)).2

end KeyRight.App
