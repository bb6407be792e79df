/-
  KeyBundle.Proofs.ModuleLimit — how many modules to encrypt with a bundle may have.

  The number is compared with the limit of the settings where a call makes the bundle of its modules
  (`modules_of_gives`), and nowhere else: merging appends the modules of the next bundle, however many
  there are. So a bundle that is built of calls has the modules of all of them (`Built.modules`), at
  least one and at most `limit` for each call that is given modules (`modules_built`). With one such
  call the bundle is within the limit; with more calls than `limit` it is past it.

  The limit holds of each call, then, and not of what is combined of them: not even by the limit of
  one module that counts without any settings (`modules_past_limit`).
-/

import KeyBundle.Proofs.Pairing

namespace KeyBundle

open Build

/-! ## The limit of the settings -/

/-- The settings that count from now on: those shared, or those that the environment describes. -/
def Context.settings? (c : Context) : Option Settings :=
  match c.shared with
  | some (_, s) => some s
  | none => (Settings.load c.readPath c.env standardPrefix).toOption

theorem of_exec_sharedSettings {c c' : Context} {s : Nat × Settings} (h : exec sharedSettings c = (.ok s, c')) :
    c.settings? = some s.2 := by
  obtain ⟨d, c₁, hget, h⟩ := of_exec_bind h
  cases hget
  unfold Context.settings?
  cases hs : c.shared with
  | some shared =>
    rw [hs] at h
    cases h
    rfl
  | none =>
    rw [hs] at h
    cases hl : Settings.load c.readPath c.env standardPrefix with
    | error f =>
      rw [hl] at h
      cases h
    | ok loaded =>
      rw [hl] at h
      cases h
      rfl

theorem of_exec_moduleLimit {c c' : Context} {n : Number} (h : exec (moduleLimit .none) c = (.ok n, c')) :
    ∃ s, c.settings? = some s ∧ s.limits.maxModules = n := by
  obtain ⟨s, c₁, hs, h⟩ := of_exec_bind h
  cases h
  exact ⟨s.2, of_exec_sharedSettings hs, rfl⟩

/-- Modules pass the check when there are some, and not more than the settings allow. -/
theorem of_exec_checkEncrypting {modules pins : List Blob} {c c' : Context}
    (h : exec (checkEncrypting (.pkcs11Recipients modules pins) .none) c = (.ok (), c')) :
    modules ≠ [] ∧ ∃ s, c.settings? = some s ∧ s.limits.maxModules.less (.int modules.length) = false := by
  obtain ⟨_, c₁, hp, hlimit⟩ := of_exec_bind h
  obtain ⟨-, rfl⟩ := of_exec_requirePaired hp
  obtain ⟨n, c₂, hn, hcounts⟩ := of_exec_bind hlimit
  obtain ⟨s, hs, rfl⟩ := of_exec_moduleLimit hn
  by_cases none : modules.isEmpty = true
  · rw [if_pos none] at hcounts
    cases hcounts
  · rw [if_neg none] at hcounts
    by_cases many : s.limits.maxModules.less (.int modules.length) = true
    · rw [if_pos many] at hcounts
      cases hcounts
    · exact ⟨fun he => none (List.isEmpty_iff.mpr he), s, hs, Bool.eq_false_iff.mpr many⟩

theorem Number.less_int (m n : Int) : (Number.int m).less (.int n) = decide (m < n) := by
  simp [Number.less, Number.exact]

/-! ## Calls -/

namespace Call

/-- A call that is given modules to encrypt with. -/
def isForModules (k : Call) : Bool :=
  match k.kind with
  | .encryptWithPkcs11 => true
  | _ => false

/-- The modules to encrypt with that a call is given. -/
def modules (k : Call) : List Blob := if k.isForModules then k.first else []

/-- The call goes by the limit of the settings, which is this. -/
structure LimitedTo (k : Call) (limit : Nat) : Prop where
  own : k.limit = .none
  settings : ∀ s, k.context.settings? = some s → s.limits.maxModules = .int limit

theorem LimitedTo.of_settings {k : Call} {limit : Nat} {s : Settings} (own : k.limit = .none)
    (settings : k.context.settings? = some s) (h : s.limits.maxModules = .int limit) : k.LimitedTo limit where
  own := own
  settings t ht := by
    cases settings.symm.trans ht
    exact h

theorem map_modulePairs {k : Call} (h : k.Even) : k.modulePairs.map Prod.fst = k.modules := by
  obtain ⟨kind, args, context⟩ := k
  cases kind
  case encryptWithPkcs11 => exact List.map_fst_zip (Nat.le_of_eq h)
  all_goals rfl

theorem modules_of_gives {k : Call} {v : Value} {limit : Nat} (h : k.Gives v) (hk : k.isForModules = true)
    (hl : k.LimitedTo limit) : 1 ≤ k.modules.length ∧ k.modules.length ≤ limit := by
  obtain ⟨kind, args, context⟩ := k
  cases kind
  case encryptWithPkcs11 =>
    obtain ⟨-, drawn, c', hc⟩ := of_gives rfl h
    rw [hl.own] at hc
    obtain ⟨any, s, hs, less⟩ := of_exec_checkEncrypting hc
    rw [hl.settings s hs, Number.less_int, decide_eq_false_iff_not] at less
    exact ⟨List.length_pos_iff.mpr any, Int.ofNat_le.mp (Int.not_lt.mp less)⟩
  all_goals cases hk

/-- As many modules as there are calls for them at least, and `limit` times as many at most. -/
theorem length_modules {calls : List Call} {limit : Nat}
    (h : ∀ k ∈ calls, k.isForModules = true → 1 ≤ k.modules.length ∧ k.modules.length ≤ limit) :
    calls.countP isForModules ≤ (calls.flatMap modules).length ∧
      (calls.flatMap modules).length ≤ calls.countP isForModules * limit := by
  induction calls with
  | nil => exact ⟨Nat.le_refl 0, Nat.zero_le _⟩
  | cons k calls ih =>
    obtain ⟨hk, hcalls⟩ := List.forall_mem_cons.mp h
    have rest := ih hcalls
    rw [List.flatMap_cons, List.length_append]
    cases hf : k.isForModules with
    | true =>
      have here := hk hf
      rw [List.countP_cons_of_pos hf, Nat.add_mul, Nat.one_mul]
      omega
    | false =>
      have none : k.modules.length = 0 := by rw [modules, hf]; rfl
      rw [List.countP_cons_of_neg (Bool.eq_false_iff.mp hf), none, Nat.zero_add]
      exact rest

end Call

/-! ## What is built -/

/-- The modules to encrypt with are those of all calls, whatever the limits were. -/
theorem Built.modules {calls : List Call} {v : Value} (h : Built calls v) (hk : ∀ k ∈ calls, k.kind.isNamed = true) :
    ∃ b, v = .cryptoConfig b ∧ b.encryptConfig.parameters.blobs Wire.modules = calls.flatMap Call.modules := by
  obtain ⟨b, hb, hp⟩ := h.paired hk
  refine ⟨b, hb, ?_⟩
  have even := h.even hk
  calc b.encryptConfig.parameters.blobs Wire.modules
    _ = (calls.flatMap Call.modulePairs).map Prod.fst := hp.encrypting.map_fst.symm
    _ = calls.flatMap fun k => k.modulePairs.map Prod.fst := List.map_flatMap
    _ = calls.flatMap Call.modules := List.flatMap_congr fun k hm => Call.map_modulePairs (even k hm)

/-- A bundle that is built of calls of the named constructors, all by the one limit of the settings, has the
    modules of all of them. Each call for modules has at least one and at most `limit`; nothing
    else bounds them. -/
theorem modules_built {calls : List Call} {v : Value} {limit : Nat} (h : Built calls v)
    (hk : ∀ k ∈ calls, k.kind.isNamed = true) (hl : ∀ k ∈ calls, k.LimitedTo limit) :
    ∃ b, v = .cryptoConfig b ∧ b.encryptConfig.parameters.blobs Wire.modules = calls.flatMap Call.modules ∧
      (∀ k ∈ calls, k.isForModules = true → 1 ≤ k.modules.length ∧ k.modules.length ≤ limit) ∧
      calls.countP Call.isForModules ≤ (b.encryptConfig.parameters.blobs Wire.modules).length ∧
      (b.encryptConfig.parameters.blobs Wire.modules).length ≤ calls.countP Call.isForModules * limit := by
  obtain ⟨b, hb, hm⟩ := h.modules hk
  have each : ∀ k ∈ calls, k.isForModules = true → 1 ≤ k.modules.length ∧ k.modules.length ≤ limit := by
    intro k hkc hf
    obtain ⟨b, hg⟩ := h.gives.2 k hkc
    exact Call.modules_of_gives hg hf (hl k hkc)
  exact ⟨b, hb, hm, each, hm ▸ Call.length_modules each⟩

/-- By a limit of two: a call for two modules, one for recipients, and one for a single module. -/
theorem modules_built_three :
    let start : Context := .start [("LAYERCRYPT_LIMITS__MAX_PKCS11_ENCRYPT_MODULES", "2")] .ofString
    let call (kind : Assembly.Constructor) (v w : Value) : Call := ⟨kind, [(0, v), (1, w)], start⟩
    let pair : Call := call .encryptWithPkcs11 (.tuple [.bytes [1], .bytes [2]]) (.tuple [.bytes [], .bytes []])
    let recipient : Call := call .encryptWithJwe (.list 0 [.bytes [3]]) .none
    let single : Call := call .encryptWithPkcs11 (.stream 0 [.bytes [4]]) (.list 1 [.bytes [5]])
    let calls := [pair, recipient, single]
    ∃ v, Built calls v ∧ (∀ k ∈ calls, k.kind.isNamed = true) ∧ (∀ k ∈ calls, k.LimitedTo 2) ∧
      calls.flatMap Call.modules = [[1], [2], [4]] ∧ calls.countP Call.isForModules = 2 ∧
      ∃ b, v = .cryptoConfig b ∧ b.encryptConfig.parameters.blobs Wire.modules = calls.flatMap Call.modules ∧
        (∀ k ∈ calls, k.isForModules = true → 1 ≤ k.modules.length ∧ k.modules.length ≤ 2) ∧
        2 ≤ (b.encryptConfig.parameters.blobs Wire.modules).length ∧
        (b.encryptConfig.parameters.blobs Wire.modules).length ≤ 2 * 2 := by
  have settings : (Context.start [("LAYERCRYPT_LIMITS__MAX_PKCS11_ENCRYPT_MODULES", "2")] .ofString).settings? =
      some ⟨⟨.int 2⟩, .default⟩ := by rfl
  intro start call pair recipient single calls
  obtain ⟨p, hp⟩ : ∃ v, pair.Gives v := Call.gives_of_isOk (by decide +kernel)
  obtain ⟨r, hr⟩ : ∃ v, recipient.Gives v := Call.gives_of_isOk (by decide +kernel)
  obtain ⟨s, hs⟩ : ∃ v, single.Gives v := Call.gives_of_isOk (by decide +kernel)
  obtain ⟨v, -, -, hv⟩ := @Built.combine [([pair], p), ([recipient], r), ([single], s)] (.list 2 [p, r, s]) start
    (by simp [Built.call, hp, hr, hs]) rfl
  replace hv : Built calls v := hv
  have named : ∀ k ∈ calls, k.kind.isNamed = true := by decide
  have limited : ∀ k ∈ calls, k.LimitedTo 2 := by
    simp only [calls, List.forall_mem_cons]
    exact ⟨.of_settings rfl settings rfl, .of_settings rfl settings rfl, .of_settings rfl settings rfl, List.forall_mem_nil _⟩
  exact ⟨v, hv, named, limited, rfl, rfl, modules_built hv named limited⟩

/-- Without any settings the limit is one module. Two bundles of one module each are within it; combined
    they are not. -/
theorem modules_past_limit :
    let call (module pin : Blob) : Call :=
      ⟨.encryptWithPkcs11, [(0, .list 0 [.bytes module]), (1, .list 1 [.bytes pin])], .start [] .ofString⟩
    let calls := [call [0x61] [0x31], call [0x62] [0x32]]
    ∃ v, Built calls v ∧ (∀ k ∈ calls, k.kind.isNamed = true) ∧ (∀ k ∈ calls, k.LimitedTo 1) ∧
      ∃ b, v = .cryptoConfig b ∧ b.encryptConfig.parameters.blobs Wire.modules = [[0x61], [0x62]] ∧
        1 < (b.encryptConfig.parameters.blobs Wire.modules).length := by
  intro call calls
  obtain ⟨a, ha⟩ : ∃ v, (call [0x61] [0x31]).Gives v := Call.gives_of_isOk (by decide +kernel)
  obtain ⟨b, hb⟩ : ∃ v, (call [0x62] [0x32]).Gives v := Call.gives_of_isOk (by decide +kernel)
  obtain ⟨v, -, -, hv⟩ := @Built.combine [([call [0x61] [0x31]], a), ([call [0x62] [0x32]], b)] (.list 2 [a, b])
    (.start [] .ofString) (by simp [Built.call, ha, hb]) rfl
  replace hv : Built calls v := hv
  have named : ∀ k ∈ calls, k.kind.isNamed = true := by decide
  have limited : ∀ k ∈ calls, k.LimitedTo 1 := by
    have settings : (Context.start [] .ofString).settings? = some .default := rfl
    simp only [calls, List.forall_mem_cons]
    exact ⟨.of_settings rfl settings rfl, .of_settings rfl settings rfl, List.forall_mem_nil _⟩
  obtain ⟨d, hd, hm⟩ := hv.modules named
  replace hm : d.encryptConfig.parameters.blobs Wire.modules = [[0x61], [0x62]] := hm
  exact ⟨v, hv, named, limited, d, hd, hm, by rw [hm]; decide⟩

end KeyBundle
