/-
  KeyBundle.Proofs.ModuleCalls — what a call for hardware modules to encrypt with comes to.

  Five things are looked at, one after the other: the modules, the pins, their lengths, the limit, and the
  number of modules. The first that is not as it should be decides the fault; if all are, there is a
  bundle. `ModuleOutcome` is the table of these cases. Each of its rows says which checks have been passed, and in
  what state the call leaves the streams that it was given, the shared settings and the notices. What reading
  modules or pins raises of its own accord has a row too: such an error is passed on.

  `exec_encryptWithPkcs11_iff`: a call comes to just what the table says, from every state.
-/

import KeyBundle.Proofs.Announcing
import KeyBundle.Proofs.Reading
import KeyBundle.Proofs.Requests
import KeyBundle.Session.Access

namespace KeyBundle

open Build

/-! ## The table -/

/-- Two sequences of blobs of one length; the second is gone through after the first. -/
structure AreEven (c : Context) (v w : Value) : Prop where
  first : IsSequence c v
  second : IsSequence (c.past v) w
  even : (blobsIn c v).length = (blobsIn (c.past v) w).length

/-- What a call for modules with pins and a limit comes to, and the state that it leaves. -/
inductive ModuleOutcome (modules pins limit : Value) (c : Context) : Except Fault CryptoConfig → Context → Prop
  | modulesRaise {e : Raised} (raises : Raises c modules e) :
      ModuleOutcome modules pins limit c (.error e.passed) (c.past modules)
  | modulesRefused {r : Rejection} (no : ¬IsSequence c modules) (calm : ∀ e, ¬Raises c modules e)
      (reason : refusal? c "modules" modules = some r) (named : r.field? = some "modules") :
      ModuleOutcome modules pins limit c (.error (.argument (.rejected r))) (c.past modules)
  | pinsRaise {e : Raised} (first : IsSequence c modules) (raises : Raises (c.past modules) pins e) :
      ModuleOutcome modules pins limit c (.error e.passed) ((c.past modules).past pins)
  | pinsRefused {r : Rejection} (first : IsSequence c modules) (no : ¬IsSequence (c.past modules) pins)
      (calm : ∀ e, ¬Raises (c.past modules) pins e) (reason : refusal? (c.past modules) "pins" pins = some r)
      (named : r.field? = some "pins") :
      ModuleOutcome modules pins limit c (.error (.argument (.rejected r))) ((c.past modules).past pins)
  /-- Nothing but the streams has changed: the settings are not asked for. -/
  | uneven {m n : Nat} (first : IsSequence c modules) (second : IsSequence (c.past modules) pins)
      (hm : (blobsIn c modules).length = m) (hn : (blobsIn (c.past modules) pins).length = n) (differ : m ≠ n) :
      ModuleOutcome modules pins limit c (.error (.argument (.rejected (.lengthsDiffer "modules" "pins" m n))))
        ((c.past modules).past pins)
  | limitRefused {f : Fault} (read : AreEven c modules pins) (barred : Barred c limit f) :
      ModuleOutcome modules pins limit c (.error f) ((c.past modules).past pins)
  | noModule {n : Number} (read : AreEven c modules pins) (allowed : Allows c limit n) (none : blobsIn c modules = []) :
      ModuleOutcome modules pins limit c (.error (.support .noModule)) (((c.past modules).past pins).askedFor limit)
  | tooMany {n : Number} {m : Nat} (read : AreEven c modules pins) (allowed : Allows c limit n) (some : blobsIn c modules ≠ [])
      (hm : (blobsIn c modules).length = m) (many : n.less (.int m) = true) :
      ModuleOutcome modules pins limit c (.error (.support (.tooManyModules n m))) (((c.past modules).past pins).askedFor limit)
  /-- The bundle has the modules and the pins in their order, and nothing else. -/
  | made {n : Number} {p : ParameterSet} {ms ps : List Blob} (read : AreEven c modules pins) (allowed : Allows c limit n)
      (hm : blobsIn c modules = ms) (hp : blobsIn (c.past modules) pins = ps) (some : ms ≠ [])
      (few : n.less (.int ms.length) = false) (entries : p.entries = [(Wire.modules, ms), (Wire.pins, ps)]) :
      ModuleOutcome modules pins limit c (.ok ⟨⟨p, .empty, [.pkcs11Recipients ms ps]⟩, .empty⟩)
        ((((c.past modules).past pins).askedFor limit).noting [builtNotice (.pkcs11Recipients ms ps) p])

/-! ## The steps of a call -/

theorem entries_pkcs11Recipients (ms ps : List Blob) :
    (Scheme.pkcs11Recipients ms ps).parameters.entries = [(Wire.modules, ms), (Wire.pins, ps)] := rfl

theorem ofScheme_pkcs11Recipients (ms ps : List Blob) : CryptoConfig.ofScheme (.pkcs11Recipients ms ps) =
    ⟨⟨(Scheme.pkcs11Recipients ms ps).parameters, .empty, [.pkcs11Recipients ms ps]⟩, .empty⟩ := by
  change CryptoConfig.mk ⟨parametersOf [_], _, _⟩ _ = _
  rw [parametersOf_singleton]

/-- The call reads its modules and pins, and announces the scheme of them. -/
theorem encryptWithPkcs11_eq (modules pins limit : Value) : encryptWithPkcs11 modules pins limit =
    twoFields "modules" "pins" modules pins >>= fun f => announce (.pkcs11Recipients f.1 f.2) limit := by
  have side : Gives (fun s : Scheme => s.direction = .encrypt) (pkcs11Recipients modules pins) :=
    .bind (.anything _) fun _ _ => .pure rfl
  rw [encryptWithPkcs11, encryptWith_eq side, pkcs11Recipients, bind_assoc]
  rfl

section

variable {c : Context} {ms ps : List Blob} {limit : Value}

theorem checkScheme_modules (ms ps : List Blob) (limit : Value) :
    checkScheme (.pkcs11Recipients ms ps) limit = checkEncrypting (.pkcs11Recipients ms ps) limit := rfl

theorem exec_checkModules_uneven (h : ms.length ≠ ps.length) : exec (checkScheme (.pkcs11Recipients ms ps) limit) c =
    (.error (badArgument (.lengthsDiffer "modules" "pins" ms.length ps.length)), c) := by
  rw [checkScheme_modules, checkEncrypting]
  exact exec_bind_error (by rw [exec_requirePaired, if_neg h]) _

theorem exec_checkModules_barred {f : Fault} (h : ms.length = ps.length) (barred : Barred c limit f) :
    exec (checkScheme (.pkcs11Recipients ms ps) limit) c = (.error f, c) := by
  rw [checkScheme_modules, checkEncrypting, exec_bind_ok (by rw [exec_requirePaired, if_pos h])]
  exact exec_bind_error (exec_moduleLimit_error barred) _

theorem exec_checkModules_allowed {n : Number} (h : ms.length = ps.length) (allowed : Allows c limit n) :
    exec (checkScheme (.pkcs11Recipients ms ps) limit) c =
      (if ms = [] then .error (.support .noModule)
        else if n.less (.int ms.length) then .error (.support (.tooManyModules n ms.length))
        else .ok (), c.askedFor limit) := by
  rw [checkScheme_modules, checkEncrypting, exec_bind_ok (by rw [exec_requirePaired, if_pos h]),
    exec_bind_ok (exec_moduleLimit_ok allowed)]
  cases ms with
  | nil => rfl
  | cons m ms =>
    rw [if_neg (List.cons_ne_nil m ms)]
    split <;> rfl

/-- The check of a scheme asks for the settings. -/
def Scheme.asks (s : Scheme) (limit : Value) : Bool :=
  match s, limit with
  | .pkcs11Recipients ms ps, .none => ms.length == ps.length
  | _, _ => false

theorem asks_of_isLimited_false {s : Scheme} (h : s.isLimited = false) (limit : Value) : s.asks limit = false := by
  cases s with
  | pkcs11Recipients => cases h
  | _ => rfl

theorem asks_modules_uneven (h : ms.length ≠ ps.length) : (Scheme.pkcs11Recipients ms ps).asks limit = false := by
  cases limit with
  | none => exact beq_eq_false_iff_ne.mpr h
  | _ => rfl

theorem asked_modules (h : ms.length = ps.length) :
    (if (Scheme.pkcs11Recipients ms ps).asks limit then c.asked else c) = c.askedFor limit := by
  cases limit with
  | none => exact if_pos (beq_iff_eq.mpr h)
  | _ => rfl

theorem context_checkModules (ms ps : List Blob) (limit : Value) (c : Context) :
    (exec (checkScheme (.pkcs11Recipients ms ps) limit) c).2 =
      if (Scheme.pkcs11Recipients ms ps).asks limit then c.asked else c := by
  by_cases even : ms.length = ps.length
  · rw [asked_modules even]
    obtain ⟨n, allowed⟩ | ⟨f, barred⟩ := allows_or_barred c limit
    · rw [exec_checkModules_allowed even allowed]
    · rw [exec_checkModules_barred even barred, barred.askedFor]
  · rw [exec_checkModules_uneven even, asks_modules_uneven even]
    rfl

/-- What a check leaves behind, whatever it comes to. -/
theorem context_checkScheme (s : Scheme) (limit : Value) (c : Context) : (exec (checkScheme s limit) c).2 =
    (if s.asks limit then c.asked else c).noting (if (exec (checkScheme s limit) c).1.isOk then s.warnings else []) := by
  cases hs : s.isLimited with
  | false =>
    rw [asks_of_isLimited_false hs]
    by_cases even : s.Even
    · rw [exec_checkScheme_ok hs even]
      rfl
    · obtain ⟨r, hr⟩ : ∃ r, exec (checkScheme s limit) c = (.error (badArgument r), c) := exec_checkScheme_error hs even
      rw [hr]
      exact (Context.noting_nil c).symm
  | true =>
    cases s with
    | pkcs11Recipients ms ps =>
      have quiet : (Scheme.pkcs11Recipients ms ps).warnings = [] := rfl
      rw [quiet, ite_self, Context.noting_nil]
      exact context_checkModules ms ps limit c
    | _ => cases hs

end

/-! ## The outcome -/

section

variable {modules pins limit : Value} {c c' : Context} {r : Except Fault CryptoConfig}

/-- Whether there is a limit does not depend on how far streams have been read. -/
theorem Allows.past {n : Number} (h : Allows c limit n) (v : Value) : Allows (c.past v) limit n := by
  cases h with
  | given atLeastOne => exact .given atLeastOne
  | shared settled => exact .shared settled

theorem Barred.past {f : Fault} (h : Barred c limit f) (v : Value) : Barred (c.past v) limit f := by
  cases h with
  | belowOne below => exact .belowOne below
  | unsettled refused => exact .unsettled refused
  | unordered given noNumber => exact .unordered given noNumber

theorem AreEven.exec_twoFields {v w : Value} (h : AreEven c v w) (first second : String) :
    exec (twoFields first second v w) c = (.ok (blobsIn c v, blobsIn (c.past v) w), (c.past v).past w) :=
  exec_twoFields_ok h.first h.second first second

/-- What the table says is what happens. -/
theorem ModuleOutcome.exec_eq (h : ModuleOutcome modules pins limit c r c') :
    exec (encryptWithPkcs11 modules pins limit) c = (r, c') := by
  rw [encryptWithPkcs11_eq]
  cases h with
  | modulesRaise raises => exact exec_bind_error (exec_twoFields_first (exec_field_raises raises _) _ _) _
  | modulesRefused _ calm reason => exact exec_bind_error (exec_twoFields_first (exec_field_refused reason calm) _ _) _
  | pinsRaise first raises => exact exec_bind_error (exec_twoFields_second first (exec_field_raises raises _) _) _
  | pinsRefused first _ calm reason =>
    exact exec_bind_error (exec_twoFields_second first (exec_field_refused reason calm) _) _
  | uneven first second hm hn differ =>
    subst hm hn
    rw [exec_bind_ok (exec_twoFields_ok first second _ _)]
    exact exec_announce_error (exec_checkModules_uneven differ)
  | limitRefused read barred =>
    rw [exec_bind_ok (read.exec_twoFields _ _)]
    exact exec_announce_error (exec_checkModules_barred read.even ((barred.past _).past _))
  | noModule read allowed none =>
    rw [exec_bind_ok (read.exec_twoFields _ _)]
    refine exec_announce_error ?_
    rw [exec_checkModules_allowed read.even ((allowed.past _).past _), if_pos none]
  | tooMany read allowed some hm many =>
    subst hm
    rw [exec_bind_ok (read.exec_twoFields _ _)]
    refine exec_announce_error ?_
    rw [exec_checkModules_allowed read.even ((allowed.past _).past _), if_neg some, if_pos many]
  | made read allowed hm hp some few entries =>
    subst hm hp
    cases ParameterSet.ext (entries.trans (entries_pkcs11Recipients _ _).symm)
    rw [exec_bind_ok (read.exec_twoFields _ _), ← ofScheme_pkcs11Recipients]
    refine exec_announce_ok ?_
    rw [exec_checkModules_allowed read.even ((allowed.past _).past _), if_neg some, if_neg (by simp [few])]

/-- The table leaves no case out. -/
theorem exists_moduleOutcome (modules pins limit : Value) (c : Context) : ∃ r c', ModuleOutcome modules pins limit c r c' := by
  by_cases first : IsSequence c modules
  case neg =>
    by_cases raises : ∃ e, Raises c modules e
    · obtain ⟨e, raises⟩ := raises
      exact ⟨_, _, .modulesRaise raises⟩
    · obtain ⟨r, reason⟩ := exists_refusal first "modules"
      exact ⟨_, _, .modulesRefused first (not_exists.mp raises) reason (field?_of_refusal? reason)⟩
  by_cases second : IsSequence (c.past modules) pins
  case neg =>
    by_cases raises : ∃ e, Raises (c.past modules) pins e
    · obtain ⟨e, raises⟩ := raises
      exact ⟨_, _, .pinsRaise first raises⟩
    · obtain ⟨r, reason⟩ := exists_refusal second "pins"
      exact ⟨_, _, .pinsRefused first second (not_exists.mp raises) reason (field?_of_refusal? reason)⟩
  by_cases even : (blobsIn c modules).length = (blobsIn (c.past modules) pins).length
  case neg => exact ⟨_, _, .uneven first second rfl rfl even⟩
  have read : AreEven c modules pins := ⟨first, second, even⟩
  obtain ⟨n, allowed⟩ | ⟨f, barred⟩ := allows_or_barred c limit
  case inr => exact ⟨_, _, .limitRefused read barred⟩
  by_cases some : blobsIn c modules = []
  case pos => exact ⟨_, _, .noModule read allowed some⟩
  cases many : n.less (.int (blobsIn c modules).length) with
  | true => exact ⟨_, _, .tooMany read allowed some rfl many⟩
  | false => exact ⟨_, _, .made read allowed rfl rfl some many (entries_pkcs11Recipients _ _)⟩

/-- One module without a pin, by a limit that is refused itself: the lengths are looked at first. -/
example : (exec (encryptWithPkcs11 (.tuple [.bytes [1]]) .none (.int 0)) (.start [] .ofString)).1 =
    .error (.argument (.rejected (.lengthsDiffer "modules" "pins" 1 0))) := rfl

end

end KeyBundle
