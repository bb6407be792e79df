/-
  KeyBundle.Proofs.SharedSettings — which settings a session goes by.

  Some operations ask for the shared settings (`Operation.asks`): for the settings themselves, for a logger, or for
  the limit of modules. The first request that finds settings in the environment shares them, and a reset takes
  them back.

  (1) A request does what the operation does when it is given the settings, and shares them
      (`exec_perform_settled`); where there are none, it fails and shares nothing (`exec_perform_unsettled`).
  (2) No other step shares settings or takes them back. So those that are shared after some steps are those of
      the environment at the first request since the last reset that has found any (`source`,
      `settled_after`).
  (3) Reading settings has nothing to do with any of that (`exec_loadSettings_sharing`).

  So a request goes by the settings that were there when they were first asked for, whatever has become of
  the environment since (`requests_settled`).
-/

import KeyBundle.Proofs.Notices
import KeyBundle.Proofs.Receivers

namespace KeyBundle

open Build

/-! ## Contexts -/

/-- The second context has the same environment, and the same settings shared. -/
structure Context.Fixed (c d : Context) : Prop where
  env : d.env = c.env
  readPath : d.readPath = c.readPath
  shared : d.shared = c.shared

namespace Context

variable {c d e : Context}

theorem Fixed.refl (c : Context) : c.Fixed c := ⟨rfl, rfl, rfl⟩

theorem Fixed.trans (h : c.Fixed d) (k : d.Fixed e) : c.Fixed e :=
  ⟨k.env.trans h.env, k.readPath.trans h.readPath, k.shared.trans h.shared⟩

theorem Onward.fixed (h : c.Onward d) : c.Fixed d := by
  obtain ⟨drawn, fresh, rfl⟩ := h
  exact ⟨rfl, rfl, rfl⟩

theorem Fixed.noting (h : c.Fixed d) (ns : List Notice) : c.Fixed (d.noting ns) := ⟨h.env, h.readPath, h.shared⟩

theorem Fixed.settled (h : c.Fixed d) : d.settled = c.settled := by
  rw [Context.settled, Context.settled, h.shared, h.env, h.readPath]

theorem readPath_asked (c : Context) : c.asked.readPath = c.readPath := by
  unfold asked
  split <;> rfl

theorem asked_noting (c : Context) (ns : List Notice) : (c.noting ns).asked = c.asked.noting ns := by
  have same : (c.noting ns).settled = c.settled := rfl
  have shared : (c.noting ns).shared = c.shared := rfl
  unfold asked
  rw [same, shared]
  split <;> rfl

end Context

/-! ## (1) Requests -/

/-- Settings that are read from an environment allow a module. -/
theorem atLeastOne_of_load {readPath : PathReader} {env : Environment} {pre : String} {x : Settings}
    (h : Settings.load readPath env pre = .ok x) : x.limits.maxModules.less (.int 1) = false := by
  obtain ⟨limit, -, h⟩ := of_bind_ok h
  obtain ⟨limits, hl, h⟩ := of_bind_ok h
  obtain ⟨logging, -, h⟩ := of_bind_ok h
  cases h
  cases limit with
  | none =>
    cases hl
    rfl
  | some n =>
    change Limits.make (.int n) = .ok limits at hl
    unfold Limits.make at hl
    split at hl
    · cases hl
    · next atLeastOne =>
      cases hl
      exact Bool.eq_false_iff.mpr atLeastOne

/-- The check that a request is made for is that by the limit of the settings. -/
theorem exec_announce_settled {s : Scheme} {c : Context} {x : Settings} (h : s.asks .none = true) (hx : c.settled = .ok x)
    (valid : x.limits.maxModules.less (.int 1) = false) :
    exec (announce s .none) c = ((exec (announce s (.number x.limits.maxModules)) c).1,
      (exec (announce s (.number x.limits.maxModules)) c).2.asked) := by
  cases s with
  | pkcs11Recipients ms ps =>
    have even : ms.length = ps.length := beq_iff_eq.mp h
    have asked := exec_checkModules_allowed even (.shared hx)
    have given := exec_checkModules_allowed even (.given valid : Allows c _ _)
    rcases hr : (if ms = [] then .error (.support .noModule)
      else if x.limits.maxModules.less (.int ms.length) then .error (.support (.tooManyModules x.limits.maxModules ms.length))
      else .ok () : Except Fault Unit) with f | ⟨⟩
    · rw [hr] at asked given
      rw [exec_announce_error asked, exec_announce_error given]
      rfl
    · rw [hr] at asked given
      rw [exec_announce_ok asked, exec_announce_ok given]
      exact congrArg _ (c.asked_noting _).symm
  | _ => cases h

theorem exec_announce_unsettled {s : Scheme} {c : Context} {f : SettingFault} (h : s.asks .none = true)
    (hf : c.settled = .error f) : exec (announce s .none) c = (.error (.setting f), c) := by
  cases s with
  | pkcs11Recipients ms ps => exact exec_announce_error (exec_checkModules_barred (beq_iff_eq.mp h) (.unsettled hf))
  | _ => cases h

theorem exec_bundle (b : Build CryptoConfig) (c : Context) :
    exec (Session.bundle b) c = ((exec b c).1.map Value.cryptoConfig, (exec b c).2) := by
  rw [Session.bundle, exec_bind]
  rcases exec b c with ⟨_ | _, _⟩ <;> rfl

namespace Call

/-- The call comes to a check that asks for the settings. -/
def asks (k : Call) : Bool :=
  match (exec k.scheming k.context).1 with
  | .ok s => s.asks k.bound
  | .error _ => false

/-- The same call with a limit of its own. -/
def withLimit (k : Call) (n : Number) : Call :=
  match k.kind with
  | .encryptWithScheme => { k with args := [(0, k.arg 0), (1, .number n)] }
  | .encryptWithPkcs11 => { k with args := [(0, k.arg 0), (1, k.arg 1), (2, .number n)] }
  | _ => k

variable {k : Call}

theorem fixed_of_scheming {r : Except Fault Scheme} {c : Context} (h : exec k.scheming k.context = (r, c)) :
    k.context.Fixed c := by
  have onward := (k.light_scheming.onward k.context).fixed
  rwa [h] at onward

/-- Only two constructors may ask, and only if they are given no limit. -/
theorem of_asks (h : k.asks = true) : (k.kind = .encryptWithScheme ∨ k.kind = .encryptWithPkcs11) ∧ k.bound = .none ∧
    ∃ s c, exec k.scheming k.context = (.ok s, c) ∧ s.asks .none = true := by
  unfold asks at h
  rcases hs : exec k.scheming k.context with ⟨f | s, c⟩
  · rw [hs] at h
    cases h
  · rw [hs] at h
    replace h : s.asks k.bound = true := h
    have side := k.gives_scheming _ _ _ hs
    cases s with
    | pkcs11Recipients ms ps =>
      have bound : k.bound = .none := by
        cases hb : k.bound with
        | none => rfl
        | _ =>
          rw [hb] at h
          cases h
      rw [bound] at h
      refine ⟨?_, bound, _, _, rfl, h⟩
      obtain ⟨kind, args, context⟩ := k
      cases kind
      case encryptWithScheme => exact .inl rfl
      case encryptWithPkcs11 => exact .inr rfl
      case encryptWithJwe | encryptWithPkcs7 => cases (of_exec_oneField hs).1
      case encryptWithGpg => cases (of_exec_gpgRecipients hs).1
      case initEncryption => cases (of_scheming_raw rfl hs).1
      all_goals cases side
    | _ => cases h

theorem build_of_limited (hk : k.kind = .encryptWithScheme ∨ k.kind = .encryptWithPkcs11) :
    k.kind.operation.build k.args = Session.bundle (k.scheming >>= fun s => announce s k.bound) := by
  rw [build_eq]
  have finish : k.finish = pure := by
    funext b
    unfold Call.finish
    obtain hk | hk := hk <;> rw [hk]
  simp only [finish, bind_pure]

theorem build_withLimit (hk : k.kind = .encryptWithScheme ∨ k.kind = .encryptWithPkcs11) (n : Number) :
    (k.withLimit n).kind.operation.build (k.withLimit n).args =
      Session.bundle (k.scheming >>= fun s => announce s (.number n)) := by
  obtain ⟨kind, args, context⟩ := k
  obtain rfl | rfl : kind = .encryptWithScheme ∨ kind = .encryptWithPkcs11 := hk
  · exact build_of_limited (.inl rfl)
  · exact build_of_limited (.inr rfl)

/-- What the call comes to is what comes of it with the limit of the settings, which are shared after it. -/
theorem exec_build_settled {x : Settings} (h : k.asks = true) (hx : k.context.settled = .ok x)
    (valid : x.limits.maxModules.less (.int 1) = false) :
    let given := k.withLimit x.limits.maxModules
    exec (k.kind.operation.build k.args) k.context =
      ((exec (given.kind.operation.build given.args) k.context).1,
        (exec (given.kind.operation.build given.args) k.context).2.asked) := by
  intro given
  obtain ⟨hk, bound, s, c₁, hs, asks⟩ := of_asks h
  have fixed := fixed_of_scheming hs
  have announced := exec_announce_settled asks (fixed.settled.trans hx) valid
  rw [build_of_limited hk, build_withLimit hk, bound, exec_bundle, exec_bundle, exec_bind_ok hs, exec_bind_ok hs, announced]

theorem exec_build_unsettled {f : SettingFault} (h : k.asks = true) (hf : k.context.settled = .error f) :
    (exec (k.kind.operation.build k.args) k.context).1 = .error (.setting f) ∧
      k.context.Fixed (exec (k.kind.operation.build k.args) k.context).2 := by
  obtain ⟨hk, bound, s, c₁, hs, asks⟩ := of_asks h
  have fixed := fixed_of_scheming hs
  rw [build_of_limited hk, bound, exec_bundle, exec_bind_ok hs, exec_announce_unsettled asks (fixed.settled.trans hf)]
  exact ⟨rfl, fixed⟩

/-- A call that does not ask leaves the settings as they are. -/
theorem fixed_build (h : k.asks = false) : k.context.Fixed (exec (k.kind.operation.build k.args) k.context).2 := by
  rw [build_eq, exec_bundle]
  unfold asks at h
  rcases hs : exec k.scheming k.context with ⟨f | s, c₁⟩
  · rw [exec_bind_error hs]
    exact fixed_of_scheming hs
  · rw [hs] at h
    have checked := context_checkScheme s k.bound c₁
    rw [show s.asks k.bound = false from h, if_neg Bool.false_ne_true] at checked
    have fixed := (fixed_of_scheming hs).noting (if (exec (checkScheme s k.bound) c₁).1.isOk then s.warnings else [])
    rw [← checked] at fixed
    rw [exec_bind_ok hs]
    rcases hc : exec (checkScheme s k.bound) c₁ with ⟨f | ⟨⟩, c₂⟩
    · rw [hc] at fixed
      rw [exec_bind_error (exec_announce_error hc)]
      exact fixed
    · rw [hc] at fixed
      rw [exec_bind_ok (exec_announce_ok hc)]
      exact (fixed.noting _).trans ((k.light_finish _).onward _).fixed

end Call

namespace Session

/-- Nothing is given. -/
def isMissing : Value → Bool
  | .none => true
  | _ => false

theorem of_isMissing {v : Value} (h : isMissing v = true) : v = .none := by
  cases v <;> first | rfl | cases h

/-- The operation asks for the shared settings when it is called with these arguments. -/
def Operation.asks (op : Operation) (args : Arguments) (c : Context) : Bool :=
  match op with
  | .sharedSettings | .logger => true
  | .configureLogging => isMissing (args.get 0)
  | .encryptWithScheme => Call.asks ⟨.encryptWithScheme, args, c⟩
  | .encryptWithPkcs11 => Call.asks ⟨.encryptWithPkcs11, args, c⟩
  | _ => false

/-- What an operation that asks comes to when it is given the settings. -/
def Operation.settledBy (op : Operation) (args : Arguments) (id : Nat) (x : Settings) : Act Value :=
  match op with
  | .logger => loggerFrom (args.get 0) (.logging x.logging)
  | .configureLogging => Session.configureLogging (.logging x.logging)
  | .encryptWithScheme =>
    building (Operation.encryptWithScheme.build [(0, args.get 0), (1, .number x.limits.maxModules)])
  | .encryptWithPkcs11 =>
    building (Operation.encryptWithPkcs11.build [(0, args.get 0), (1, args.get 1), (2, .number x.limits.maxModules)])
  | _ => return .settings id x

/-- The session after a request. -/
def asked (s : Session) : Session := { s with context := s.context.asked }

section

variable {op : Operation} {args : Arguments} {s : Session} {x : Settings} {f : SettingFault}

theorem exec_loggingSettings_settled (hx : s.context.settled = .ok x) :
    exec (loggingSettings .none) s = (.ok (.logging x.logging), s.asked) := by
  obtain ⟨id, -, hs⟩ := exec_sharedSettings_ok hx
  rw [loggingSettings, exec_bind_ok (by rw [exec_building, hs])]
  rfl

theorem exec_loggingSettings_unsettled (hf : s.context.settled = .error f) :
    exec (loggingSettings .none) s = (.error (.setting f), s) := by
  rw [loggingSettings]
  exact exec_bind_error (by rw [exec_building, exec_sharedSettings_error hf]) _

theorem loggingSettings_given (l : LoggingConfig) : loggingSettings (.logging l) = pure (.logging l) := rfl

theorem exec_loggerFrom_settled (name : Value) (hx : s.context.settled = .ok x) :
    exec (loggerFrom name .none) s =
      ((exec (loggerFrom name (.logging x.logging)) s).1, (exec (loggerFrom name (.logging x.logging)) s).2.asked) := by
  rw [loggerFrom, loggerFrom, exec_bind_ok (exec_loggingSettings_settled hx), loggingSettings_given, pure_bind, exec_bind,
    exec_bind, exec_ofExcept, exec_ofExcept]
  cases Log.wantedBy name (.logging x.logging) with
  | error f => rfl
  | ok w =>
    dsimp only
    rw [exec_setUpLogger, exec_setUpLogger]
    rfl

theorem exec_sharedSettings_settled {id : Nat} {c c' : Context} (h : exec Build.sharedSettings c = (.ok (id, x), c')) :
    exec (Operation.sharedSettings.build args) c = (.ok (.settings id x), c') := exec_bind_ok h _

/-- The handlers of the library's logger are taken away first. -/
theorem exec_configureLogging (given : Value) (s : Session) : exec (configureLogging given) s =
    exec (loggerFrom (.text Log.packageLogger) given) { s with journal := (exec Log.clearPackageLogger s.journal).2 } := by
  rw [configureLogging, exec_bind_ok (by rw [exec_settingUp]; rfl)]

theorem perform_building (op : Operation) (h : ¬op.SetsUp) (args : Arguments) : perform op args = building (op.build args) := by
  cases op
  case secureLogger => exact absurd (.inl rfl) h
  case configureLogging => exact absurd (.inr (.inl rfl)) h
  case logger => exact absurd (.inr (.inr rfl)) h
  all_goals rfl

theorem exec_building_asked {α : Type} {b b' : Build α}
    (h : exec b s.context = ((exec b' s.context).1, (exec b' s.context).2.asked)) :
    exec (building b) s = ((exec (building b') s).1, (exec (building b') s).2.asked) := by
  rw [exec_building, exec_building, h]
  rfl

theorem settledBy_encryptWithScheme (args : Arguments) (id : Nat) (x : Settings) :
    Operation.encryptWithScheme.settledBy args id x =
      building (Operation.encryptWithScheme.build [(0, args.get 0), (1, .number x.limits.maxModules)]) := rfl

theorem settledBy_encryptWithPkcs11 (args : Arguments) (id : Nat) (x : Settings) :
    Operation.encryptWithPkcs11.settledBy args id x = building
      (Operation.encryptWithPkcs11.build [(0, args.get 0), (1, args.get 1), (2, .number x.limits.maxModules)]) := rfl

/-- An operation that asks does what it does when it is given the settings, which are shared after it. -/
theorem exec_perform_settled (h : op.asks args s.context = true) (hx : s.context.settled = .ok x)
    (valid : x.limits.maxModules.less (.int 1) = false) : ∃ id, s.context.asked.shared = some (id, x) ∧
      exec (perform op args) s = ((exec (op.settledBy args id x) s).1, (exec (op.settledBy args id x) s).2.asked) := by
  obtain ⟨id, shared, hs⟩ := exec_sharedSettings_ok hx
  refine ⟨id, shared, ?_⟩
  cases op
  case sharedSettings =>
    rw [perform_building .sharedSettings (by simp [Operation.SetsUp]), exec_building, exec_sharedSettings_settled hs]
    rfl
  case logger => exact exec_loggerFrom_settled _ hx
  case configureLogging =>
    change exec (configureLogging (args.get 0)) s =
      ((exec (configureLogging (.logging x.logging)) s).1, (exec (configureLogging (.logging x.logging)) s).2.asked)
    rw [of_isMissing h, exec_configureLogging, exec_configureLogging]
    exact exec_loggerFrom_settled _ hx
  case encryptWithScheme =>
    have same := Call.exec_build_settled (k := ⟨.encryptWithScheme, args, s.context⟩) h hx valid
    rw [perform_building .encryptWithScheme (by simp [Operation.SetsUp]), settledBy_encryptWithScheme]
    exact exec_building_asked same
  case encryptWithPkcs11 =>
    have same := Call.exec_build_settled (k := ⟨.encryptWithPkcs11, args, s.context⟩) h hx valid
    rw [perform_building .encryptWithPkcs11 (by simp [Operation.SetsUp]), settledBy_encryptWithPkcs11]
    exact exec_building_asked same
  all_goals cases h

theorem exec_loggerFrom_unsettled (name : Value) (hf : s.context.settled = .error f) :
    exec (loggerFrom name .none) s = (.error (.setting f), s) :=
  exec_bind_error (exec_loggingSettings_unsettled hf) _

/-- Where there are no settings, an operation that asks fails with what is wrong with them, and nothing is shared. -/
theorem exec_perform_unsettled (h : op.asks args s.context = true) (hf : s.context.settled = .error f) :
    (exec (perform op args) s).1 = .error (.setting f) ∧ s.context.Fixed (exec (perform op args) s).2.context := by
  cases op
  case sharedSettings =>
    have refused : exec (Operation.sharedSettings.build args) s.context = (.error (.setting f), s.context) :=
      exec_bind_error (exec_sharedSettings_error hf) _
    rw [perform_building .sharedSettings (by simp [Operation.SetsUp]), exec_building, refused]
    exact ⟨rfl, .refl _⟩
  case logger =>
    have refused := exec_loggerFrom_unsettled (args.get 0) hf
    rw [show perform .logger args = loggerFrom (args.get 0) .none from rfl, refused]
    exact ⟨rfl, .refl _⟩
  case configureLogging =>
    have refused := exec_loggerFrom_unsettled (s := { s with journal := (exec Log.clearPackageLogger s.journal).2 })
      (.text Log.packageLogger) hf
    rw [show perform .configureLogging args = configureLogging (args.get 0) from rfl, of_isMissing h, exec_configureLogging,
      refused]
    exact ⟨rfl, .refl _⟩
  case encryptWithScheme =>
    rw [perform_building .encryptWithScheme (by simp [Operation.SetsUp]), exec_building]
    exact Call.exec_build_unsettled (k := ⟨.encryptWithScheme, args, s.context⟩) h hf
  case encryptWithPkcs11 =>
    rw [perform_building .encryptWithPkcs11 (by simp [Operation.SetsUp]), exec_building]
    exact Call.exec_build_unsettled (k := ⟨.encryptWithPkcs11, args, s.context⟩) h hf
  all_goals cases h

/-! ### What does not ask -/

/-- Settings that are given need not be asked for. -/
theorem context_loggerFrom {given : Value} (name : Value) (h : isMissing given = false) :
    (exec (loggerFrom name given) s).2.context = s.context := by
  have settings : loggingSettings given = pure given := by
    cases given <;> first | rfl | cases h
  rw [loggerFrom, settings, pure_bind, exec_bind, exec_ofExcept]
  cases Log.wantedBy name given with
  | error f => rfl
  | ok w =>
    dsimp only
    rw [exec_setUpLogger]

theorem fixed_loggerFrom {given : Value} (name : Value) (h : isMissing given = false) :
    s.context.Fixed (exec (loggerFrom name given) s).2.context := by
  rw [context_loggerFrom name h]
  exact .refl _

theorem fixed_configureLogging {given : Value} (h : isMissing given = false) :
    s.context.Fixed (exec (configureLogging given) s).2.context := by
  rw [exec_configureLogging]
  exact fixed_loggerFrom (s := { s with journal := (exec Log.clearPackageLogger s.journal).2 }) _ h

/-- An operation that does not ask leaves the settings as they are, a reset apart. -/
theorem fixed_perform (h : op.asks args s.context = false) (hr : op ≠ .forgetSettings) :
    s.context.Fixed (exec (perform op args) s).2.context := by
  by_cases hs : op.SetsUp
  · obtain rfl | rfl | rfl := hs
    · rw [show perform .secureLogger args = setUpLogger (secureWanted args) from rfl, exec_setUpLogger]
      exact .refl _
    · exact fixed_configureLogging h
    · cases h
  · rw [perform_building op hs, exec_building]
    obtain light | ⟨kind, rfl⟩ | rfl | rfl := light_build op args
    · exact (light.onward s.context).fixed
    · refine Call.fixed_build (k := ⟨kind, args, s.context⟩) (Bool.eq_false_iff.mpr fun asks => ?_)
      obtain ⟨rfl | rfl, -⟩ := Call.of_asks asks
      · exact Bool.eq_false_iff.mp h asks
      · exact Bool.eq_false_iff.mp h asks
    · cases h
    · exact absurd rfl hr

/-- Nor does one that is given the settings change them. -/
theorem fixed_settledBy (h : op.asks args s.context = true) (id : Nat) (x : Settings) :
    s.context.Fixed (exec (op.settledBy args id x) s).2.context := by
  cases op
  case sharedSettings => exact .refl _
  case logger => exact fixed_loggerFrom _ rfl
  case configureLogging => exact fixed_configureLogging rfl
  case encryptWithScheme =>
    rw [settledBy_encryptWithScheme, exec_building]
    refine Call.fixed_build (k := ⟨.encryptWithScheme, _, s.context⟩) (Bool.eq_false_iff.mpr fun asks => ?_)
    cases (Call.of_asks asks).2.1
  case encryptWithPkcs11 =>
    rw [settledBy_encryptWithPkcs11, exec_building]
    refine Call.fixed_build (k := ⟨.encryptWithPkcs11, _, s.context⟩) (Bool.eq_false_iff.mpr fun asks => ?_)
    cases (Call.of_asks asks).2.1
  all_goals cases h

end

/-! ## (2) Sessions -/

/-- The step forgets the shared settings. -/
def Step.resets (e : Step) (s : Session) : Bool :=
  match e with
  | .call .forgetSettings args => (exec (evalArguments args) s).1.isOk
  | _ => false

/-- The step comes to an operation that asks for them. -/
def Step.asks (e : Step) (s : Session) : Bool :=
  match e with
  | .call op args =>
    match exec (evalArguments args) s with
    | (.ok given, t) => op.asks given t.context
    | (.error _, _) => false
  | _ => false

/-- The settings that the environment describes now. -/
def described (s : Session) : Except SettingFault Settings :=
  Settings.load s.context.readPath s.context.env standardPrefix

/-- The environment of the first request since the last reset that has found settings, after one more step. What
    comes of the request otherwise does not count. -/
def Step.source (e : Step) (s : Session) (src : Option Environment) : Option Environment :=
  if e.resets s then none
  else if e.asks s && s.described.isOk then some (src.getD s.context.env)
  else src

/-- The same after some more steps. -/
def source : List Entry → Session → Option Environment → Option Environment
  | [], _, src => src
  | e :: es, s, src => source es (runEntry e s).2 (e.step.source s src)

/-- The shared settings are those of this environment, if there is one. -/
def Settled (src : Option Environment) (c : Context) : Prop :=
  match src with
  | none => c.shared = none
  | some env => ∃ id x, c.shared = some (id, x) ∧ Settings.load c.readPath env standardPrefix = .ok x

/-- What there is to be had where these settings are shared. -/
def available (src : Option Environment) (s : Session) : Except SettingFault Settings :=
  Settings.load s.context.readPath (src.getD s.context.env) standardPrefix

/-- A request goes by these settings: it comes to what it comes to when it is given them, and they are shared
    after it. Where there are none, it fails with what is wrong with them, and none are shared after it. -/
inductive GoesBy (op : Operation) (args : Arguments) (s : Session) : Except SettingFault Settings → Prop
  | settled {id : Nat} {x : Settings} (does : exec (perform op args) s =
      ((exec (op.settledBy args id x) s).1, (exec (op.settledBy args id x) s).2.asked))
      (shared : (exec (perform op args) s).2.context.shared = some (id, x)) : GoesBy op args s (.ok x)
  | refused {f : SettingFault} (fails : (exec (perform op args) s).1 = .error (.setting f))
      (shared : (exec (perform op args) s).2.context.shared = none) : GoesBy op args s (.error f)

section

variable {src : Option Environment} {s : Session} {op : Operation} {args : Arguments}

theorem Settled.fixed {c d : Context} (h : Settled src c) (hd : c.Fixed d) : Settled src d := by
  unfold Settled at h ⊢
  rw [hd.shared, hd.readPath]
  exact h

theorem Settled.settled (h : Settled src s.context) : s.context.settled = available src s := by
  cases src with
  | none => exact Context.settled_of_none h
  | some env =>
    obtain ⟨id, x, shared, load⟩ := h
    exact (Context.settled_of_shared shared).trans load.symm

/-! ### One step -/

/-- Only a request for the settings themselves gives them as the thing that is shared. -/
theorem settledBy_eq (h : op.asks args s.context = true) (hop : op ≠ .sharedSettings) (id id' : Nat) (x : Settings) :
    op.settledBy args id x = op.settledBy args id' x := by
  cases op
  case sharedSettings => exact absurd rfl hop
  case logger | configureLogging | encryptWithScheme | encryptWithPkcs11 => rfl
  all_goals cases h

/-- A request goes by the settings that are shared, or else by those that the environment describes now. -/
theorem goesBy_perform (h : Settled src s.context) (asks : op.asks args s.context = true) :
    GoesBy op args s (available src s) := by
  have settled := h.settled
  cases hx : available src s with
  | error f =>
    rw [hx] at settled
    obtain ⟨fails, fixed⟩ := exec_perform_unsettled asks settled
    refine .refused fails (fixed.shared.trans ?_)
    cases hs : s.context.shared with
    | none => rfl
    | some shared => cases (Context.settled_of_shared hs).symm.trans settled
  | ok x =>
    rw [hx] at settled
    obtain ⟨id, shared, does⟩ := exec_perform_settled asks settled (atLeastOne_of_load hx)
    by_cases hop : op = .sharedSettings
    · subst hop
      refine .settled does ?_
      rw [does]
      exact shared
    · have fixed := fixed_settledBy asks id x
      obtain ⟨id', shared', -⟩ := exec_sharedSettings_ok (fixed.settled.trans settled)
      have same : exec (perform op args) s =
          ((exec (op.settledBy args id' x) s).1, (exec (op.settledBy args id' x) s).2.asked) := by
        rw [does, settledBy_eq asks hop id id']
      refine .settled same ?_
      rw [does]
      exact shared'

/-- If the environment describes settings, those that were there before the request, or else these, are shared
    after it. -/
theorem settled_perform (h : Settled src s.context) (asks : op.asks args s.context = true) :
    Settled (if s.described.isOk then some (src.getD s.context.env) else src) (exec (perform op args) s).2.context := by
  have goes := goesBy_perform h asks
  cases hx : available src s with
  | error f =>
    rw [hx] at goes
    cases goes with
    | refused _ shared =>
    cases src with
    | none =>
      rw [show s.described = .error f from hx]
      exact shared
    | some env =>
      obtain ⟨id, x, -, load⟩ := h
      cases hx.symm.trans load
  | ok x =>
    rw [hx] at goes
    cases goes with
    | settled does shared =>
    have readPath : (exec (perform op args) s).2.context.readPath = s.context.readPath := by
      rw [does]
      exact (Context.readPath_asked _).trans (fixed_settledBy asks _ x).readPath
    have found : Settled (some (src.getD s.context.env)) (exec (perform op args) s).2.context := by
      refine ⟨_, x, shared, ?_⟩
      rw [readPath]
      exact hx
    cases src with
    | none =>
      rw [show s.described = .ok x from hx]
      exact found
    | some env => exact (ite_self (some env)).symm ▸ found

/-- Evaluating arguments leaves the settings as they are. -/
theorem fixed_evalArguments (args : List (Nat × Term)) (s : Session) :
    s.context.Fixed (exec (evalArguments args) s).2.context := by
  let I (t : Session) : Prop := s.context.Fixed t.context
  have building {α : Type} {b : Build α} (light : Light b) : Keeps I (building b) := by
    intro t h
    rw [exec_building]
    exact h.trans (light.onward _).fixed
  have evalSecond (p : Nat × Term) : Keeps I (do return (p.1, ← eval p.2) : Act (Nat × Value)) :=
    .bind (.bind .get fun _ => .bind (building (light_eval _ _)) fun _ => .bind .get fun _ => .pure _) fun _ => .pure _
  exact Keeps.mapM evalSecond args s (.refl _)

theorem resets_call (hop : op ≠ .forgetSettings) (args : List (Nat × Term)) :
    (Step.call op args).resets s = false := by
  cases op <;> first | rfl | exact absurd rfl hop

theorem settled_call (h : Settled src s.context) (op : Operation) (args : List (Nat × Term)) :
    Settled ((Step.call op args).source s src) (exec (Step.call op args).act s).2.context := by
  have fixed := fixed_evalArguments args s
  have evaluated := h.fixed fixed
  rw [show exec (Step.call op args).act s = exec (evalArguments args >>= perform op) s from rfl]
  rcases hx : exec (evalArguments args) s with ⟨f | given, t⟩ <;> rw [hx] at fixed evaluated
  · have kept : (Step.call op args).source s src = src := by
      have resets : (Step.call op args).resets s = false := by
        cases op <;> first | rfl | rw [Step.resets, hx]; rfl
      rw [Step.source, resets, Step.asks, hx]
      rfl
    rw [exec_bind_error hx, kept]
    exact evaluated
  · rw [exec_bind_ok hx]
    by_cases hop : op = .forgetSettings
    · subst hop
      have gone : (Step.call .forgetSettings args).source s src = none := by
        rw [Step.source, Step.resets, hx]
        rfl
      rw [gone]
      rfl
    · have described : t.described = s.described := by rw [Session.described, fixed.readPath, fixed.env, Session.described]
      rw [Step.source, resets_call hop, if_neg Bool.false_ne_true, Step.asks, hx, ← described, ← fixed.env]
      by_cases asks : op.asks given t.context = true
      · simp only [asks, Bool.true_and]
        exact settled_perform evaluated asks
      · rw [Bool.not_eq_true] at asks
        simp only [asks, Bool.false_and]
        exact evaluated.fixed (fixed_perform asks hop)

theorem enduring_settled (src : Option Environment) : Enduring fun s => Settled src s.context where
  building light := by
    intro s h
    rw [exec_building]
    exact h.fixed (light.onward _).fixed
  bindings h _ := h
  environment h _ := h
  know h _ := h
  log h _ := h
  clock h _ := h
  reports h _ := h
  reported h _ := h

/-- After a step the settings of the first request since the last reset are shared. -/
theorem settled_act (e : Step) (h : Settled src s.context) : Settled (e.source s src) (exec e.act s).2.context := by
  have others (hcall : ∀ op args, e ≠ .call op args) : Settled src (exec e.act s).2.context :=
    (enduring_settled src).step e (fun op args he => absurd he (hcall op args)) s h
  cases e with
  | call op args => exact settled_call h op args
  | _ => exact others nofun

/-! ### Runs -/

/-- In every session the shared settings are those of the first request since the last reset that has found any. -/
theorem settled_after (entries : List Entry) (h : Settled src s.context) :
    Settled (source entries s src) (after entries s).context := by
  induction entries generalizing s src with
  | nil => exact h
  | cons e entries ih => exact ih ((enduring_settled _).runEntry (settled_act e.step h))

/-! ## (3) Reading settings -/

/-- The session with these settings shared, or with none. -/
def sharing (s : Session) (shared : Option (Nat × Settings)) : Session :=
  { s with context := { s.context with shared } }

/-- Reading settings neither looks at those that are shared nor changes them. -/
theorem exec_loadSettings_sharing (args : Arguments) (s : Session) (shared : Option (Nat × Settings)) :
    exec (perform .loadSettings args) (s.sharing shared) =
      ((exec (perform .loadSettings args) s).1, (exec (perform .loadSettings args) s).2.sharing shared) := by
  have blind (pre : Value) (c : Context) : exec (loadSettings pre) { c with shared } =
      ((exec (loadSettings pre) c).1, { (exec (loadSettings pre) c).2 with shared }) := by
    unfold loadSettings
    rw [exec_bind, exec_bind, exec_ofExcept, exec_ofExcept]
    cases openingFor pre with
    | error f => rfl
    | ok opening =>
      dsimp only
      rw [exec_bind_ok (exec_get _), exec_bind_ok (exec_get _)]
      dsimp only
      cases Settings.ofOverrides c.readPath (overrides c.env opening) <;> rfl
  rw [show perform .loadSettings args = building (loadSettings (args.get 0 (.text standardPrefix))) from rfl, exec_building,
    exec_building, show (s.sharing shared).context = { s.context with shared } from rfl, blind]
  rfl

/-- Read with the usual prefix, the settings are those that the environment describes. -/
theorem exec_loadSettings_standard (s : Session) : (exec (perform .loadSettings []) s).1 =
    match s.described with
    | .ok x => .ok (.settings s.context.fresh x)
    | .error f => .error (.setting f) := by
  have opening : exec (ofExcept (openingFor (.text standardPrefix))) s.context = (.ok (openingOf standardPrefix), s.context) :=
    exec_ofExcept _ _
  rw [show perform .loadSettings [] = building (loadSettings (.text standardPrefix)) from rfl, exec_building, loadSettings,
    exec_bind_ok opening, exec_bind_ok (exec_get _), described, Settings.load]
  cases Settings.ofOverrides s.context.readPath (overrides s.context.env (openingOf standardPrefix)) <;> rfl

/-! ## Whole sessions -/

/-- A step that is no reset does not take away what has been found. -/
theorem source_some {e : Step} (h : ∀ args, e ≠ .call .forgetSettings args) (s : Session) (env : Environment) :
    e.source s (some env) = some env := by
  have resets : e.resets s = false := by
    cases e with
    | call op args => exact resets_call (fun hop => h args (hop ▸ rfl)) args
    | _ => rfl
  rw [Step.source, resets, if_neg Bool.false_ne_true]
  exact ite_self (some env)

theorem source_append (entries more : List Entry) (s : Session) (src : Option Environment) :
    source (entries ++ more) s src = source more (after entries s) (source entries s src) := by
  induction entries generalizing s src with
  | nil => rfl
  | cons e entries ih => exact ih ..

/-- What has been found counts until the next reset, whatever becomes of the environment. -/
theorem source_kept {entries : List Entry} (h : ∀ e ∈ entries, ∀ args, e.step ≠ .call .forgetSettings args) (s : Session)
    (env : Environment) : source entries s (some env) = some env := by
  induction entries generalizing s with
  | nil => rfl
  | cons e entries ih =>
    obtain ⟨hhead, htail⟩ := List.forall_mem_cons.mp h
    rw [source, source_some hhead]
    exact ih htail _

end

/-- In every session, an operation that asks for the shared settings goes by those of the environment at the first
    request since the last reset that has found any, or else by those that the environment describes now. Until the
    next reset nothing changes that. Reading settings leaves what is shared as it is and does not look at it: it
    gives what the environment describes now. -/
theorem requests_settled (mode : Mode) (env : Environment) (entries : List Entry) :
    (∀ (op : Operation) (args : List (Nat × Term)) (given : Arguments) (t : Session),
      exec (evalArguments args) (after entries (start mode env)) = (.ok given, t) → op.asks given t.context = true →
        GoesBy op given t (available (source entries (start mode env) none) t)) ∧
    (∀ (found : Environment) (more : List Entry), source entries (start mode env) none = some found →
      (∀ e ∈ more, ∀ args, e.step ≠ .call .forgetSettings args) →
        source (entries ++ more) (start mode env) none = some found) ∧
    (∀ (args : Arguments) (t : Session) (shared : Option (Nat × Settings)),
      exec (perform .loadSettings args) (t.sharing shared) =
        ((exec (perform .loadSettings args) t).1, (exec (perform .loadSettings args) t).2.sharing shared)) ∧
    ∀ t : Session, (exec (perform .loadSettings []) t).1 =
      match t.described with
      | .ok x => .ok (.settings t.context.fresh x)
      | .error f => .error (.setting f) := by
  refine ⟨fun op args given t evaluated asks => ?_, fun found more hfound hmore => ?_, exec_loadSettings_sharing,
    exec_loadSettings_standard⟩
  · have fixed := fixed_evalArguments args (after entries (start mode env))
    rw [evaluated] at fixed
    have nothing : Settled none (start mode env).context := rfl
    exact goesBy_perform ((settled_after entries nothing).fixed fixed) asks
  · rw [source_append, hfound, source_kept hmore]

/-- The step sets the variable of the limit. -/
def limitTo (value : String) : Entry := ⟨.setVariable "LAYERCRYPT_LIMITS__MAX_PKCS11_ENCRYPT_MODULES" value, none⟩

/-- Three modules are too many for the limit at the first request, though the variable has been raised since. -/
theorem requests_settled_raised :
    let s := after [limitTo "2", ⟨.call .sharedSettings [], none⟩, limitTo "3"] (start .notices [])
    let modules : Value := .tuple [.bytes [1], .bytes [2], .bytes [3]]
    let given : Arguments := [(0, modules), (1, modules)]
    Operation.encryptWithPkcs11.asks given s.context = true ∧
      GoesBy .encryptWithPkcs11 given s
        (available (some [("LAYERCRYPT_LIMITS__MAX_PKCS11_ENCRYPT_MODULES", "2")]) s) ∧
      (exec (perform .encryptWithPkcs11 given) s).1 = .error (.support (.tooManyModules (.int 2) 3)) := by
  have found : source [limitTo "2", ⟨.call .sharedSettings [], none⟩, limitTo "3"] (start .notices []) none =
      some [("LAYERCRYPT_LIMITS__MAX_PKCS11_ENCRYPT_MODULES", "2")] :=
    (requests_settled .notices [] [limitTo "2", ⟨.call .sharedSettings [], none⟩]).2.1 _ [limitTo "3"] (by rfl)
      (by simp [limitTo])
  let terms : Term := .tuple [.bytes [1], .bytes [2], .bytes [3]]
  have goes := (requests_settled .notices [] [limitTo "2", ⟨.call .sharedSettings [], none⟩, limitTo "3"]).1
    .encryptWithPkcs11 [(0, terms), (1, terms)] _ _ rfl rfl
  rw [found] at goes
  exact ⟨rfl, goes, rfl⟩

end Session

end KeyBundle
