/-
  KeyBundle.Proofs.Notices — what the constructors report.

  A scheme is checked before notice is given of its bundle, so what is refused until then is refused without
  a word, and a bundle is reported once, after the warning about pairs that do not match (`reports_call`).

  With parameters to embed the notice comes too early: those are read only when it has been given. So where
  they are refused a bundle has been reported that there is not (`notice_of_refused`). No other call that
  fails has given notice of anything.
-/

import KeyBundle.Proofs.Lightness
import KeyBundle.Proofs.ModuleCalls

namespace KeyBundle

open Build

/-! ## Steps -/

theorem Light.notices {α : Type} {b : Build α} (h : Light b) (c : Context) : (exec b c).2.notices = c.notices := by
  obtain ⟨drawn, fresh, hc⟩ := h.onward c
  rw [hc]

theorem Context.notices_asked (c : Context) : c.asked.notices = c.notices := by
  unfold asked
  split <;> rfl

/-- A check that is passed has reported what there is to warn of, and one that is not has reported nothing. -/
theorem notices_checkScheme (s : Scheme) (limit : Value) (c : Context) : (exec (checkScheme s limit) c).2.notices =
    c.notices ++ if (exec (checkScheme s limit) c).1.isOk then s.warnings else [] := by
  have asked : (if s.asks limit then c.asked else c).notices = c.notices := by
    split
    · exact c.notices_asked
    · rfl
  rw [context_checkScheme, Context.noting, asked]

theorem notices_announce_ok {s : Scheme} {limit : Value} {c c' : Context} {b : CryptoConfig}
    (h : exec (announce s limit) c = (.ok b, c')) : c'.notices = c.notices ++ (s.warnings ++ [builtNotice s s.parameters]) := by
  have checked := notices_checkScheme s limit c
  rcases hs : exec (checkScheme s limit) c with ⟨f | ⟨⟩, c₁⟩
  · rw [exec_announce_error hs] at h
    cases h
  · rw [hs] at checked
    rw [exec_announce_ok hs] at h
    cases h
    rw [Context.noting, ← List.append_assoc]
    exact congrArg (· ++ _) checked

theorem notices_announce_error {s : Scheme} {limit : Value} {c c' : Context} {f : Fault}
    (h : exec (announce s limit) c = (.error f, c')) : c'.notices = c.notices := by
  have checked := notices_checkScheme s limit c
  rcases hs : exec (checkScheme s limit) c with ⟨e | ⟨⟩, c₁⟩
  · rw [hs] at checked
    rw [exec_announce_error hs] at h
    cases h
    exact checked.trans (List.append_nil _)
  · rw [exec_announce_ok hs] at h
    cases h

/-- Parameters as they are have nothing to be checked. -/
theorem gives_rawScheme (d : Direction) (v : Value) :
    Gives (fun s => s.isLimited = false ∧ s.Even ∧ s.warnings = []) (rawScheme d v) := by
  rw [rawScheme_eq]
  exact .bind (.anything _) fun p _ => .pure ⟨rfl, trivial, rfl⟩

/-! ## Calls -/

namespace Call

theorem light_scheming (k : Call) : Light k.scheming := by
  obtain ⟨kind, args, context⟩ := k
  cases kind
  case encryptWithScheme | decryptWithScheme => exact light_schemeFor _ _
  case encryptWithJwe | encryptWithPkcs7 | decryptWithX509s => exact light_oneField _ _ _
  case encryptWithGpg => exact light_gpgRecipients _ _
  case encryptWithPkcs11 | decryptWithPrivateKeys | decryptWithGpgPrivateKeys | decryptWithPkcs11 =>
    exact light_twoFields _ _ _ _ _
  case initEncryption | initDecryption => exact light_customScheme _ _ _

theorem light_finish (k : Call) (b : CryptoConfig) : Light (k.finish b) := by
  unfold finish
  split
  · split
    · exact .bind (light_customScheme _ _ _) fun _ => .pure _
    · exact .pure _
  · exact .pure _

/-- Only parameters to embed are read when notice has been given. -/
theorem of_finish_error {k : Call} {b : CryptoConfig} {c c' : Context} {f : Fault}
    (h : exec (k.finish b) c = (.error f, c')) : k.kind = .initEncryption := by
  unfold finish at h
  split at h
  · assumption
  · cases h

/-- What a call reports, by what it comes to. -/
inductive Reports (k : Call) : Except Fault Value → List Notice → Prop
  /-- A bundle is reported last, after a warning if its scheme has pairs that do not match. -/
  | made {s : Scheme} {c : Context} {v : Value} (scheme : exec k.scheming k.context = (.ok s, c)) :
      Reports k (.ok v) (s.warnings ++ [builtNotice s s.parameters])
  | refused {f : Fault} (notYet : k.kind = .initEncryption → ∀ s c, exec k.scheming k.context ≠ (.ok s, c)) :
      Reports k (.error f) []
  /-- Only what was to be embedded has been refused. -/
  | tooEarly {f : Fault} {s : Scheme} {c : Context} (kind : k.kind = .initEncryption)
      (scheme : exec k.scheming k.context = (.ok s, c)) : Reports k (.error f) [builtNotice s s.parameters]

theorem of_scheming_raw {k : Call} {s : Scheme} {c : Context} (hk : k.kind = .initEncryption)
    (h : exec k.scheming k.context = (.ok s, c)) : s.isLimited = false ∧ s.Even ∧ s.warnings = [] := by
  unfold scheming at h
  rw [hk] at h
  exact gives_rawScheme _ _ _ _ _ h

/-- What each call reports. -/
theorem reports_call (k : Call) : ∃ ns,
    (exec (k.kind.operation.build k.args) k.context).2.notices = k.context.notices ++ ns ∧
      k.Reports (exec (k.kind.operation.build k.args) k.context).1 ns := by
  rw [build_eq, Session.bundle]
  rcases hs : exec k.scheming k.context with ⟨f | s, c₁⟩
  · have quiet := k.light_scheming.notices k.context
    rw [hs] at quiet
    rw [exec_bind_error (exec_bind_error hs _)]
    exact ⟨[], quiet.trans (List.append_nil _).symm, .refused fun _ s c he => nomatch hs.symm.trans he⟩
  · have quiet := k.light_scheming.notices k.context
    rw [hs] at quiet
    replace quiet : c₁.notices = k.context.notices := quiet
    rcases ha : exec (announce s k.bound) c₁ with ⟨f | b, c₂⟩
    · have checked := notices_announce_error ha
      rw [exec_bind_error ((exec_bind_ok hs _).trans (exec_bind_error ha _))]
      refine ⟨[], (checked.trans quiet).trans (List.append_nil _).symm, .refused fun hk _ _ _ => ?_⟩
      -- parameters as they are pass every check
      obtain ⟨limited, even, -⟩ := of_scheming_raw hk hs
      rw [exec_announce_ok (exec_checkScheme_ok limited even)] at ha
      cases ha
    · have announced := notices_announce_ok ha
      rw [quiet] at announced
      have kept := (k.light_finish b).notices c₂
      rcases hf : exec (k.finish b) c₂ with ⟨f | d, c₃⟩
      · have hk := of_finish_error hf
        obtain ⟨-, -, none⟩ := of_scheming_raw hk hs
        rw [hf] at kept
        rw [exec_bind_error ((exec_bind_ok hs _).trans ((exec_bind_ok ha _).trans hf))]
        rw [none, List.nil_append] at announced
        exact ⟨_, kept.trans announced, .tooEarly hk hs⟩
      · rw [hf] at kept
        rw [exec_bind_ok ((exec_bind_ok hs _).trans ((exec_bind_ok ha _).trans hf))]
        exact ⟨_, kept.trans announced, .made hs⟩

/-- Parameters to encrypt with, and a private key to embed that is a single value: the call fails, and a
    bundle has been reported. -/
theorem notice_of_refused :
    let pubkeys : Value := .table 0 [(.text "pubkeys", .list 1 [.bytes [0x70, 0x75, 0x62]])]
    let privkeys : Value := .table 2 [(.text "privkeys", .bytes [0x6b])]
    let k : Call := ⟨.initEncryption, [(0, pubkeys), (1, privkeys)], .start [] .ofString⟩
    (exec (k.kind.operation.build k.args) k.context).1 = .error (.argument (.rejected (.singleValue "privkeys"))) ∧
      ∃ p, (exec (k.kind.operation.build k.args) k.context).2.notices = [builtNotice (.custom rawKind .encrypt p) p] ∧
        p.entries = [("pubkeys", [[0x70, 0x75, 0x62]])] :=
  ⟨rfl, _, rfl, rfl⟩

end Call

end KeyBundle
