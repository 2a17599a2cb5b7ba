import DcapQvl.Lib.Checklist
import DcapQvl.X509.PlatformPck

/-!
# Entries of the SGX extension

None of the loops over the SGX extension checks that an identifier occurs once. Where
the number of entries is the number of identifiers that are required, this follows from every
one of them being found. The base class of PCK certificates requires 5 identifiers and
also takes 7 entries, so there it does not follow.

Results:
* `Tcb.parse_eq_ok`, `setMembers_eq_ok`, `PlatformPckCertificate.setMembers_eq_ok`: the parsers
  are runs of a checklist over the decoded pairs.
* `ProcessorPckCertificate.setMembers_once`: in a processor certificate each identifier occurs
  once.
* `sgxEntries_once`: which identifiers occur once, and when the order does not matter.
-/

namespace DcapQvl

open Lib

/-- The identifier of a required extension. -/
def requiredOid : SgxExtensionType → Bytes
  | .ppid => ppidOid
  | .cpuSvn => cpuSvnOid
  | .pceSvn => pceSvnOid
  | .pceId => pceIdOid
  | .fmspc => fmspcOid
  | .sgxType => sgxTypeOid
  | .tcb => tcbOid
  | .comp i => sgxTcbCompSvnOid i
  | .platformInstanceId => platformInstanceIdOid
  | .configuration => configurationOid
  | .dynamicPlatform => dynamicPlatformOid
  | .cachedKeys => cachedKeysOid
  | .smtEnabled => smtEnabledOid

/-! ## What an entry holds -/

/-- An entry of the TCB sequence. -/
inductive TcbEntry
  | comp (i : Fin 16) (svn : UInt8)
  | pceSvn (svn : UInt32)
  | cpuSvn (bytes : Bytes)

def TcbEntry.type : TcbEntry → SgxExtensionType
  | .comp i _ => .comp i
  | .pceSvn _ => .pceSvn
  | .cpuSvn _ => .cpuSvn

def Tcb.store (self : Tcb) : TcbEntry → Tcb
  | .comp i svn => { self with cpuSvnComponents := self.cpuSvnComponents.set i svn }
  | .pceSvn pceSvn => { self with pceSvn }
  | .cpuSvn cpuSvn => { self with cpuSvn }

/-- What `Tcb.insertEntry` reads. -/
def Tcb.readEntry (oid : Bytes) (value : Asn1) : Except CertificateExn (Option TcbEntry) :=
  match compIndex oid with
  | some i => (fun n => some (.comp i (oidToByte n))) <$> validateInteger (sgxTcbCompSvnOid i) value
  | none =>
    if oid = pceSvnOid then
      (fun n => some (.pceSvn (oidToUInt n))) <$> validateInteger pceSvnOid value
    else if oid = cpuSvnOid then
      (fun bytes => some (.cpuSvn bytes)) <$> validateOctetString cpuSvnOid pckCpusvnByteLen value
    else pure none

/-- An entry of the SGX extension that every PCK certificate has. -/
inductive SgxEntry
  | ppid (bytes : Bytes)
  | tcb (tcb : Tcb)
  | pceId (bytes : Bytes)
  | fmspc (bytes : Bytes)
  | sgxType (value : Int32)
  deriving DecidableEq

def SgxEntry.type : SgxEntry → SgxExtensionType
  | .ppid _ => .ppid
  | .tcb _ => .tcb
  | .pceId _ => .pceId
  | .fmspc _ => .fmspc
  | .sgxType _ => .sgxType

def SgxMembers.store (self : SgxMembers) : SgxEntry → SgxMembers
  | .ppid ppid => { self with ppid }
  | .tcb tcb => { self with tcb }
  | .pceId pceId => { self with pceId }
  | .fmspc fmspc => { self with fmspc }
  | .sgxType sgxType => { self with sgxType }

/-- What `SgxMembers.insertEntry` reads. -/
def SgxMembers.readEntry (env : X509Env) (oid : Bytes) (value : Asn1) :
    Except CertificateExn (Option SgxEntry) :=
  if oid = ppidOid then
    (fun bytes => some (.ppid bytes)) <$> validateOctetString ppidOid ppidByteLen value
  else if oid = tcbOid then
    (fun tcb => some (.tcb tcb)) <$> Tcb.parse env value
  else if oid = pceIdOid then
    (fun bytes => some (.pceId bytes)) <$> validateOctetString pceIdOid pckPceidByteLen value
  else if oid = fmspcOid then
    (fun bytes => some (.fmspc bytes)) <$> validateOctetString fmspcOid pckFmspcByteLen value
  else if oid = sgxTypeOid then
    (fun n => some (.sgxType (oidToEnum n))) <$> validateEnumerated sgxTypeOid value
  else pure none

/-- An entry of the SGX extension that only platform certificates have. -/
inductive PlatformEntry
  | platformInstanceId (bytes : Bytes)
  | configuration (configuration : Configuration)

def PlatformEntry.type : PlatformEntry → SgxExtensionType
  | .platformInstanceId _ => .platformInstanceId
  | .configuration _ => .configuration

def PlatformMembers.store (self : PlatformMembers) : PlatformEntry → PlatformMembers
  | .platformInstanceId platformInstanceId => { self with platformInstanceId }
  | .configuration configuration => { self with configuration }

/-- What `PlatformMembers.insertEntry` reads. -/
def PlatformMembers.readEntry (env : X509Env) (oid : Bytes) (value : Asn1) :
    Except CertificateExn (Option PlatformEntry) :=
  if oid = platformInstanceIdOid then
    (fun bytes => some (.platformInstanceId bytes)) <$>
      validateOctetString platformInstanceIdOid platformInstanceIdLen value
  else if oid = configurationOid then
    (fun configuration => some (.configuration configuration)) <$> Configuration.parse env value
  else pure none

/-! ## Checklists -/

/-- An entry that is read under an identifier. -/
theorem map_some_eq_ok {ε α β : Type} {x : Except ε α} {f : α → β} {b : β} :
    (fun a => some (f a)) <$> x = .ok (some b) ↔ ∃ a, x = .ok a ∧ f a = b := by
  rw [map_eq_ok]
  simp only [Option.some.injEq]

theorem Tcb.readEntry_oid {oid : Bytes} {value : Asn1} {entry : TcbEntry}
    (h : readEntry oid value = .ok (some entry)) : requiredOid entry.type = oid := by
  unfold readEntry at h
  cases hindex : compIndex oid with
  | some i =>
    rw [hindex] at h
    obtain ⟨n, _, rfl⟩ := map_some_eq_ok.mp h
    exact (compIndex_eq_some hindex).symm
  | none =>
    rw [hindex] at h
    dsimp only at h
    split_ifs at h with hpce hcpu
    · obtain ⟨n, _, rfl⟩ := map_some_eq_ok.mp h
      exact hpce.symm
    · obtain ⟨bytes, _, rfl⟩ := map_some_eq_ok.mp h
      exact hcpu.symm
    · cases h

theorem Tcb.store_comm {entry entry' : TcbEntry} (h : entry.type ≠ entry'.type) (self : Tcb) :
    (self.store entry).store entry' = (self.store entry').store entry := by
  cases entry with
  | comp i svn =>
    cases entry' with
    | comp j svn' =>
      have hij : i ≠ j := fun hij => h (congrArg SgxExtensionType.comp hij)
      have hset : (self.cpuSvnComponents.set i svn).set j svn' =
          (self.cpuSvnComponents.set j svn').set i svn := by
        apply List.Vector.ext
        intro k
        by_cases hk : j = k
        · subst hk
          rw [List.Vector.get_set_same, List.Vector.get_set_of_ne hij,
            List.Vector.get_set_same]
        · by_cases hk' : i = k
          · subst hk'
            rw [List.Vector.get_set_of_ne hk, List.Vector.get_set_same,
              List.Vector.get_set_same]
          · rw [List.Vector.get_set_of_ne hk, List.Vector.get_set_of_ne hk',
              List.Vector.get_set_of_ne hk', List.Vector.get_set_of_ne hk]
      simp only [store, hset]
    | pceSvn _ => rfl
    | cpuSvn _ => rfl
  | pceSvn svn =>
    cases entry' with
    | pceSvn _ => exact absurd rfl h
    | _ => rfl
  | cpuSvn bytes =>
    cases entry' with
    | cpuSvn _ => exact absurd rfl h
    | _ => rfl

/-- The loop of `Tcb::Tcb`. -/
def Tcb.checklist : Checklist CertificateExn Bytes Asn1 TcbEntry SgxExtensionType Tcb where
  read := readEntry
  kind := TcbEntry.type
  key := requiredOid
  store := store
  key_kind := readEntry_oid
  store_comm := store_comm

theorem Tcb.insertEntry_eq (self : Tcb) (expected : List SgxExtensionType) (oid : Bytes)
    (value : Asn1) :
    self.insertEntry expected oid value = checklist.tick self expected <$> readEntry oid value := by
  unfold insertEntry readEntry
  cases compIndex oid with
  | some i =>
    dsimp only
    cases validateInteger (sgxTcbCompSvnOid i) value <;> rfl
  | none =>
    dsimp only
    split_ifs
    · cases validateInteger pceSvnOid value <;> rfl
    · cases validateOctetString cpuSvnOid pckCpusvnByteLen value <;> rfl
    · rfl

theorem SgxMembers.readEntry_oid {env : X509Env} {oid : Bytes} {value : Asn1} {entry : SgxEntry}
    (h : readEntry env oid value = .ok (some entry)) : requiredOid entry.type = oid := by
  unfold readEntry at h
  split_ifs at h with hppid htcb hpceId hfmspc hsgxType
  · obtain ⟨_, _, rfl⟩ := map_some_eq_ok.mp h
    exact hppid.symm
  · obtain ⟨_, _, rfl⟩ := map_some_eq_ok.mp h
    exact htcb.symm
  · obtain ⟨_, _, rfl⟩ := map_some_eq_ok.mp h
    exact hpceId.symm
  · obtain ⟨_, _, rfl⟩ := map_some_eq_ok.mp h
    exact hfmspc.symm
  · obtain ⟨_, _, rfl⟩ := map_some_eq_ok.mp h
    exact hsgxType.symm
  · cases h

/-- The loop of `PckCertificate::setMembers`. -/
def SgxMembers.checklist (env : X509Env) :
    Checklist CertificateExn Bytes Asn1 SgxEntry SgxExtensionType SgxMembers where
  read := readEntry env
  kind := SgxEntry.type
  key := requiredOid
  store := store
  key_kind := readEntry_oid
  store_comm := by
    intro entry entry' h self
    cases entry <;> cases entry' <;> first | rfl | exact absurd rfl h

theorem SgxMembers.insertEntry_eq (env : X509Env) (self : SgxMembers)
    (expected : List SgxExtensionType) (oid : Bytes) (value : Asn1) :
    self.insertEntry env expected oid value =
      (checklist env).tick self expected <$> readEntry env oid value := by
  unfold insertEntry readEntry
  split_ifs
  · cases validateOctetString ppidOid ppidByteLen value <;> rfl
  · cases Tcb.parse env value <;> rfl
  · cases validateOctetString pceIdOid pckPceidByteLen value <;> rfl
  · cases validateOctetString fmspcOid pckFmspcByteLen value <;> rfl
  · cases validateEnumerated sgxTypeOid value <;> rfl
  · rfl

theorem PlatformMembers.readEntry_oid {env : X509Env} {oid : Bytes} {value : Asn1}
    {entry : PlatformEntry} (h : readEntry env oid value = .ok (some entry)) :
    requiredOid entry.type = oid := by
  unfold readEntry at h
  split_ifs at h with hinstance hconfiguration
  · obtain ⟨_, _, rfl⟩ := map_some_eq_ok.mp h
    exact hinstance.symm
  · obtain ⟨_, _, rfl⟩ := map_some_eq_ok.mp h
    exact hconfiguration.symm
  · cases h

/-- The loop of `PlatformPckCertificate::setMembers`. -/
def PlatformMembers.checklist (env : X509Env) :
    Checklist CertificateExn Bytes Asn1 PlatformEntry SgxExtensionType PlatformMembers where
  read := readEntry env
  kind := PlatformEntry.type
  key := requiredOid
  store := store
  key_kind := readEntry_oid
  store_comm := by
    intro entry entry' h self
    cases entry <;> cases entry' <;> first | rfl | exact absurd rfl h

theorem PlatformMembers.insertEntry_eq (env : X509Env) (self : PlatformMembers)
    (expected : List SgxExtensionType) (oid : Bytes) (value : Asn1) :
    self.insertEntry env expected oid value =
      (checklist env).tick self expected <$> readEntry env oid value := by
  unfold insertEntry readEntry
  split_ifs
  · cases validateOctetString platformInstanceIdOid platformInstanceIdLen value <;> rfl
  · cases Configuration.parse env value <;> rfl
  · rfl

/-! ## The parsers as runs of a checklist -/

/-- The decoded pairs of a sequence. -/
def Decodes (env : X509Env) (name : Bytes) (stack : List Asn1) (pairs : List (Bytes × Asn1)) :
    Prop :=
  stack.mapM (oidTuple env name) = .ok pairs

theorem Decodes.length {env : X509Env} {name : Bytes} {stack : List Asn1}
    {pairs : List (Bytes × Asn1)} (h : Decodes env name stack pairs) :
    (pairs.map Prod.fst).length = stack.length := by
  rw [List.length_map, mapM_length h]

theorem Decodes.unique {env : X509Env} {name : Bytes} {stack : List Asn1}
    {pairs pairs' : List (Bytes × Asn1)} (h : Decodes env name stack pairs)
    (h' : Decodes env name stack pairs') : pairs = pairs' :=
  Except.ok.inj (h.symm.trans h')

theorem Decodes.perm {env : X509Env} {name : Bytes} {stack stack' : List Asn1}
    {pairs : List (Bytes × Asn1)} (h : Decodes env name stack pairs)
    (hperm : stack.Perm stack') :
    ∃ pairs', Decodes env name stack' pairs' ∧ pairs.Perm pairs' := by
  have hagree : Agree List.Perm (stack.mapM (oidTuple env name))
      (stack'.mapM (oidTuple env name)) := Agree.mapM_perm _ hperm
  unfold Decodes at h ⊢
  rw [h] at hagree
  cases hpairs : stack'.mapM (oidTuple env name) with
  | error e =>
    rw [hpairs] at hagree
    cases hagree
  | ok pairs' =>
    rw [hpairs] at hagree
    obtain ⟨hperm⟩ := hagree
    exact ⟨pairs', rfl, hperm⟩

/-- Every order of the pairs is that of an order of the sequence. -/
theorem Decodes.of_perm {env : X509Env} {name : Bytes} {stack : List Asn1}
    {pairs pairs' : List (Bytes × Asn1)} (h : Decodes env name stack pairs)
    (hperm : pairs.Perm pairs') :
    ∃ stack', stack.Perm stack' ∧ Decodes env name stack' pairs' := by
  unfold Decodes at *
  induction hperm generalizing stack with
  | nil => exact ⟨stack, List.Perm.refl _, h⟩
  | cons pair _ ih =>
    cases stack with
    | nil => cases h
    | cons wrapper stack =>
      rw [List.mapM_cons] at h
      obtain ⟨_, hpair, h⟩ := bind_eq_ok.mp h
      obtain ⟨_, hpairs, h⟩ := bind_eq_ok.mp h
      cases h
      obtain ⟨stack', hstack, hpairs'⟩ := ih hpairs
      refine ⟨wrapper :: stack', hstack.cons wrapper, ?_⟩
      rw [List.mapM_cons, hpair, ok_bind, hpairs']
      rfl
  | swap pair pair' pairs =>
    cases stack with
    | nil => cases h
    | cons wrapper stack =>
      rw [List.mapM_cons] at h
      obtain ⟨_, hpair', h⟩ := bind_eq_ok.mp h
      obtain ⟨_, hpairs, h⟩ := bind_eq_ok.mp h
      cases h
      cases stack with
      | nil => cases hpairs
      | cons wrapper' stack =>
        rw [List.mapM_cons] at hpairs
        obtain ⟨_, hpair, h⟩ := bind_eq_ok.mp hpairs
        obtain ⟨_, hpairs, h⟩ := bind_eq_ok.mp h
        cases h
        refine ⟨wrapper' :: wrapper :: stack, List.Perm.swap _ _ _, ?_⟩
        rw [List.mapM_cons, hpair, ok_bind, List.mapM_cons, hpair', ok_bind, hpairs]
        rfl
  | trans _ _ ih ih' =>
    obtain ⟨stack₁, hstack₁, h₁⟩ := ih h
    obtain ⟨stack₂, hstack₂, h₂⟩ := ih' h₁
    exact ⟨stack₂, hstack₁.trans hstack₂, h₂⟩

/-- A loop that decodes a pair, and then does with it what a checklist does. -/
theorem loop_eq_ok {β σ : Type} {env : X509Env} {name : Bytes}
    (c : Checklist CertificateExn Bytes Asn1 β SgxExtensionType σ)
    {loop : List Asn1 → σ → List SgxExtensionType →
      Except CertificateExn (σ × List SgxExtensionType)}
    (hnil : ∀ self expected, loop [] self expected = .ok (self, expected))
    (hcons : ∀ wrapper wrappers self expected, loop (wrapper :: wrappers) self expected = do
      let pair ← oidTuple env name wrapper
      let r ← c.tick self expected <$> c.read pair.1 pair.2
      loop wrappers r.1 r.2)
    {stack : List Asn1} {self : σ} {expected : List SgxExtensionType}
    {r : σ × List SgxExtensionType} :
    loop stack self expected = .ok r ↔
      ∃ pairs, Decodes env name stack pairs ∧ c.run pairs self expected = .ok r := by
  unfold Decodes
  induction stack generalizing self expected with
  | nil =>
    rw [hnil]
    constructor
    · intro h
      exact ⟨[], rfl, h⟩
    · rintro ⟨pairs, hpairs, h⟩
      cases hpairs
      exact h
  | cons wrapper stack ih =>
    rw [hcons, List.mapM_cons]
    constructor
    · intro h
      obtain ⟨pair, hpair, h⟩ := bind_eq_ok.mp h
      obtain ⟨r', hr, h⟩ := bind_eq_ok.mp h
      obtain ⟨b, hb, rfl⟩ := map_eq_ok.mp hr
      obtain ⟨pairs, hpairs, hrun⟩ := ih.mp h
      refine ⟨pair :: pairs, ?_, bind_eq_ok.mpr ⟨b, hb, hrun⟩⟩
      rw [hpair, ok_bind, hpairs]
      rfl
    · rintro ⟨_, h, hrun⟩
      obtain ⟨pair, hpair, h⟩ := bind_eq_ok.mp h
      obtain ⟨pairs, hpairs, h⟩ := bind_eq_ok.mp h
      cases h
      obtain ⟨b, hb, hrun⟩ := bind_eq_ok.mp hrun
      exact bind_eq_ok.mpr ⟨pair, hpair, bind_eq_ok.mpr
        ⟨_, map_eq_ok.mpr ⟨b, hb, rfl⟩, ih.mpr ⟨pairs, hpairs, hrun⟩⟩⟩

/-- A loop, and the check that nothing is missing. -/
theorem loop_requireNone_eq_ok {α : Type} {x : Except CertificateExn (α × List SgxExtensionType)}
    {what : Bytes} {a : α} :
    (do
      let (self, expected) ← x
      requireNone what expected
      pure self) = .ok a ↔ x = .ok (a, []) := by
  rw [bind_eq_ok]
  constructor
  · rintro ⟨⟨a, expected⟩, hx, h⟩
    obtain ⟨_, hnone, h⟩ := bind_eq_ok.mp h
    cases requireNone_eq_ok hnone
    cases h
    exact hx
  · intro hx
    exact ⟨(a, []), hx, rfl⟩

theorem validateSequence_eq_ok {name : Bytes} {value : Asn1} {der : Bytes} :
    validateSequence name value = .ok der ↔ value = .sequence der := by
  cases value with
  | sequence der' => simp [validateSequence]
  | _ => simp [validateSequence]

theorem oidToStack_eq_ok {env : X509Env} {der : Bytes} {stack : List Asn1} :
    oidToStack env der = .ok stack ↔ env.d2iAsn1SequenceAny der = some stack := by
  unfold oidToStack
  cases env.d2iAsn1SequenceAny der with
  | some stack' => simp
  | none => simp

theorem failUnless_eq_ok {condition : Prop} [Decidable condition] {e : CertificateExn} {u : Unit} :
    failUnless condition e = .ok u ↔ condition := by
  unfold failUnless
  by_cases h : condition
  · simp [h]
  · simp [h]

theorem Tcb.insertEntries_eq_ok {env : X509Env} {stack : List Asn1} {self : Tcb}
    {expected : List SgxExtensionType} {r : Tcb × List SgxExtensionType} :
    insertEntries env stack self expected = .ok r ↔
      ∃ pairs, Decodes env tcbOid stack pairs ∧ checklist.run pairs self expected = .ok r := by
  apply loop_eq_ok checklist (fun _ _ => rfl)
  intro wrapper wrappers self expected
  rw [insertEntries]
  simp only [insertEntry_eq]
  rfl

theorem SgxMembers.insertEntries_eq_ok {env : X509Env} {stack : List Asn1} {self : SgxMembers}
    {expected : List SgxExtensionType} {r : SgxMembers × List SgxExtensionType} :
    insertEntries env stack self expected = .ok r ↔
      ∃ pairs, Decodes env sgxExtensionOid stack pairs ∧
        (checklist env).run pairs self expected = .ok r := by
  apply loop_eq_ok (checklist env) (fun _ _ => rfl)
  intro wrapper wrappers self expected
  rw [insertEntries]
  simp only [insertEntry_eq]
  rfl

theorem PlatformMembers.insertEntries_eq_ok {env : X509Env} {stack : List Asn1}
    {self : PlatformMembers} {expected : List SgxExtensionType}
    {r : PlatformMembers × List SgxExtensionType} :
    insertEntries env stack self expected = .ok r ↔
      ∃ pairs, Decodes env sgxExtensionOid stack pairs ∧
        (checklist env).run pairs self expected = .ok r := by
  apply loop_eq_ok (checklist env) (fun _ _ => rfl)
  intro wrapper wrappers self expected
  rw [insertEntries]
  simp only [insertEntry_eq]
  rfl

theorem Tcb.parse_eq_ok {env : X509Env} {tcbSeq : Asn1} {tcb : Tcb} :
    parse env tcbSeq = .ok tcb ↔
      ∃ der stack pairs, tcbSeq = .sequence der ∧ env.d2iAsn1SequenceAny der = some stack ∧
        stack.length = tcbSequenceLen ∧ Decodes env tcbOid stack pairs ∧
        checklist.run pairs initial tcbRequiredSgxExtensions = .ok (tcb, []) := by
  constructor
  · intro h
    obtain ⟨der, hder, h⟩ := bind_eq_ok.mp h
    obtain ⟨stack, hstack, h⟩ := bind_eq_ok.mp h
    obtain ⟨_, hlength, h⟩ := bind_eq_ok.mp h
    have hloop := loop_requireNone_eq_ok.mp h
    obtain ⟨pairs, hpairs, hrun⟩ := insertEntries_eq_ok.mp hloop
    exact ⟨der, stack, pairs, validateSequence_eq_ok.mp hder, oidToStack_eq_ok.mp hstack,
      failUnless_eq_ok.mp hlength, hpairs, hrun⟩
  · rintro ⟨der, stack, pairs, rfl, hstack, hlength, hpairs, hrun⟩
    exact bind_eq_ok.mpr ⟨der, rfl, bind_eq_ok.mpr ⟨stack, oidToStack_eq_ok.mpr hstack,
      bind_eq_ok.mpr ⟨(), failUnless_eq_ok.mpr hlength,
        loop_requireNone_eq_ok.mpr (insertEntries_eq_ok.mpr ⟨pairs, hpairs, hrun⟩)⟩⟩⟩

theorem setMembers_eq_ok {env : X509Env} {sgxExtensions : List Asn1} {members : SgxMembers} :
    setMembers env sgxExtensions = .ok members ↔
      (sgxExtensions.length = processorCaExtensionCount ∨
        sgxExtensions.length = platformCaExtensionCount) ∧
      ∃ pairs, Decodes env sgxExtensionOid sgxExtensions pairs ∧
        (SgxMembers.checklist env).run pairs .initial pckRequiredSgxExtensions =
          .ok (members, []) := by
  constructor
  · intro h
    obtain ⟨_, hlength, h⟩ := bind_eq_ok.mp h
    have hloop := loop_requireNone_eq_ok.mp h
    exact ⟨failUnless_eq_ok.mp hlength, SgxMembers.insertEntries_eq_ok.mp hloop⟩
  · rintro ⟨hlength, h⟩
    exact bind_eq_ok.mpr ⟨(), failUnless_eq_ok.mpr hlength,
      loop_requireNone_eq_ok.mpr (SgxMembers.insertEntries_eq_ok.mpr h)⟩

theorem PlatformPckCertificate.setMembers_eq_ok {env : X509Env} {sgxExtensions : List Asn1}
    {members : PlatformMembers} :
    setMembers env sgxExtensions = .ok members ↔
      sgxExtensions.length = platformCaExtensionCount ∧
      ∃ pairs base, Decodes env sgxExtensionOid sgxExtensions pairs ∧
        (SgxMembers.checklist env).run pairs .initial pckRequiredSgxExtensions =
          .ok (base, []) ∧
        (PlatformMembers.checklist env).run pairs
          { base with platformInstanceId := [], configuration := .initial }
          platformPckRequiredSgxExtensions = .ok (members, []) := by
  constructor
  · intro h
    obtain ⟨base, hbase, h⟩ := bind_eq_ok.mp h
    obtain ⟨_, hlength, h⟩ := bind_eq_ok.mp h
    have hloop := loop_requireNone_eq_ok.mp h
    obtain ⟨_, pairs, hpairs, hrun⟩ := DcapQvl.setMembers_eq_ok.mp hbase
    obtain ⟨pairs', hpairs', hrun'⟩ := PlatformMembers.insertEntries_eq_ok.mp hloop
    cases hpairs.unique hpairs'
    exact ⟨failUnless_eq_ok.mp hlength, pairs, base, hpairs, hrun, hrun'⟩
  · rintro ⟨hlength, pairs, base, hpairs, hrun, hrun'⟩
    exact bind_eq_ok.mpr ⟨base, DcapQvl.setMembers_eq_ok.mpr ⟨Or.inr hlength, pairs, hpairs, hrun⟩,
      bind_eq_ok.mpr ⟨(), failUnless_eq_ok.mpr hlength, loop_requireNone_eq_ok.mpr
        (PlatformMembers.insertEntries_eq_ok.mpr ⟨pairs, hpairs, hrun'⟩)⟩⟩

/-! ## One entry for each identifier -/

/-- Each of the identifiers stands in exactly one pair. -/
def OnceEach (types : List SgxExtensionType) (pairs : List (Bytes × Asn1)) : Prop :=
  ∀ type ∈ types, (pairs.map Prod.fst).count (requiredOid type) = 1

/-- Two pairs of one identifier are stored as different values, so that one value replaces
    the other. -/
def Overrides (env : X509Env) (pairs : List (Bytes × Asn1)) : Prop :=
  ∃ p ∈ pairs, ∃ q ∈ pairs, p.1 = q.1 ∧ ∃ entry entry',
    SgxMembers.readEntry env p.1 p.2 = .ok (some entry) ∧
      SgxMembers.readEntry env q.1 q.2 = .ok (some entry') ∧ entry ≠ entry'

/-- The identifiers that a platform certificate requires. -/
def platformTypes : List SgxExtensionType :=
  pckRequiredSgxExtensions ++ platformPckRequiredSgxExtensions

/-- As many entries as identifiers, and every identifier found. -/
theorem OnceEach.of_length {types : List SgxExtensionType} {env : X509Env} {name : Bytes}
    {stack : List Asn1} {pairs : List (Bytes × Asn1)} (hpairs : Decodes env name stack pairs)
    (hnodup : (types.map requiredOid).Nodup) (hlength : stack.length = types.length)
    (hfound : ∀ type ∈ types, requiredOid type ∈ pairs.map Prod.fst) : OnceEach types pairs := by
  have hwanted : ∀ oid ∈ types.map requiredOid, oid ∈ pairs.map Prod.fst := by
    intro oid hoid
    obtain ⟨type, htype, rfl⟩ := List.mem_map.mp hoid
    exact hfound type htype
  have hle : (pairs.map Prod.fst).length ≤ (types.map requiredOid).length := by
    rw [hpairs.length, hlength, List.length_map]
  intro type htype
  exact Checklist.count_eq_one hnodup hwanted hle _ (List.mem_map_of_mem htype)

theorem OnceEach.count_le {types : List SgxExtensionType} {pairs : List (Bytes × Asn1)}
    (h : OnceEach types pairs) {type : SgxExtensionType} (htype : type ∈ types) :
    (pairs.map Prod.fst).count (requiredOid type) ≤ 1 := (h type htype).le

theorem TcbEntry.type_mem (entry : TcbEntry) : entry.type ∈ tcbRequiredSgxExtensions := by
  cases entry with
  | comp i _ =>
    exact List.mem_append_right _ (List.mem_map_of_mem (List.mem_finRange i))
  | pceSvn _ => simp [tcbRequiredSgxExtensions, type]
  | cpuSvn _ => simp [tcbRequiredSgxExtensions, type]

theorem SgxEntry.type_mem (entry : SgxEntry) : entry.type ∈ pckRequiredSgxExtensions := by
  cases entry <;> simp [pckRequiredSgxExtensions, type]

theorem PlatformEntry.type_mem (entry : PlatformEntry) :
    entry.type ∈ platformPckRequiredSgxExtensions := by
  cases entry <;> simp [platformPckRequiredSgxExtensions, type]

/-- The pairs of a run that succeeds have been read. -/
theorem exists_readAll {β σ : Type} {c : Checklist CertificateExn Bytes Asn1 β SgxExtensionType σ}
    {pairs : List (Bytes × Asn1)} {self self' : σ} {expected expected' : List SgxExtensionType}
    (h : c.run pairs self expected = .ok (self', expected')) :
    ∃ bs, c.readAll pairs = .ok bs := by
  obtain ⟨bs, hbs, _⟩ := c.run_eq_ok.mp h
  exact ⟨bs, hbs⟩

/-- A run over pairs of which each identifier that is read occurs once. -/
theorem OnceEach.run_perm {β σ : Type}
    {c : Checklist CertificateExn Bytes Asn1 β SgxExtensionType σ} (hkey : c.key = requiredOid)
    {types : List SgxExtensionType} (htypes : ∀ b, c.kind b ∈ types)
    {pairs pairs' : List (Bytes × Asn1)} (h : OnceEach types pairs) (hperm : pairs.Perm pairs')
    {self self' : σ} {expected expected' : List SgxExtensionType}
    (hrun : c.run pairs self expected = .ok (self', expected')) :
    c.run pairs' self expected = .ok (self', expected') := by
  obtain ⟨bs, hbs⟩ := exists_readAll hrun
  have hconsistent : c.Consistent bs := by
    apply Checklist.Consistent.of_count c hbs
    intro b
    rw [hkey]
    exact h.count_le (htypes b)
  exact c.run_perm hperm hbs hconsistent hrun

/-- What is stored last can be read off the members. -/
theorem SgxMembers.store_inj {self self' : SgxMembers} {entry entry' : SgxEntry}
    (htype : entry.type = entry'.type) (h : self.store entry = self'.store entry') :
    entry = entry' := by
  cases entry with
  | ppid _ =>
    cases entry' with
    | ppid _ => exact congrArg SgxEntry.ppid (congrArg SgxMembers.ppid h)
    | _ => cases htype
  | tcb _ =>
    cases entry' with
    | tcb _ => exact congrArg SgxEntry.tcb (congrArg SgxMembers.tcb h)
    | _ => cases htype
  | pceId _ =>
    cases entry' with
    | pceId _ => exact congrArg SgxEntry.pceId (congrArg SgxMembers.pceId h)
    | _ => cases htype
  | fmspc _ =>
    cases entry' with
    | fmspc _ => exact congrArg SgxEntry.fmspc (congrArg SgxMembers.fmspc h)
    | _ => cases htype
  | sgxType _ =>
    cases entry' with
    | sgxType _ => exact congrArg SgxEntry.sgxType (congrArg SgxMembers.sgxType h)
    | _ => cases htype

theorem requiredOid_injOn : ∀ type ∈ pckRequiredSgxExtensions,
    ∀ type' ∈ pckRequiredSgxExtensions, requiredOid type = requiredOid type' → type = type' := by
  decide +kernel

/-- The checklist is consistent exactly when no value is replaced by another. -/
theorem consistent_iff_not_overrides {env : X509Env} {pairs : List (Bytes × Asn1)}
    {bs : List (Option SgxEntry)} (hbs : (SgxMembers.checklist env).readAll pairs = .ok bs) :
    (SgxMembers.checklist env).Consistent bs ↔ ¬ Overrides env pairs := by
  constructor
  · rintro hconsistent ⟨p, hp, q, hq, hpq, entry, entry', hentry, hentry', hne⟩
    have hread : ∀ r ∈ pairs, ∀ e, SgxMembers.readEntry env r.1 r.2 = .ok (some e) →
        e ∈ bs.reduceOption := by
      intro r hr e he
      obtain ⟨b, hb, hread⟩ := exists_mem_of_mapM hbs r hr
      have heq : SgxMembers.readEntry env r.1 r.2 = .ok b := hread
      rw [he] at heq
      cases heq
      exact List.reduceOption_mem_iff.mpr hb
    have htype : entry.type = entry'.type := by
      apply requiredOid_injOn _ entry.type_mem _ entry'.type_mem
      rw [SgxMembers.readEntry_oid hentry, SgxMembers.readEntry_oid hentry', hpq]
    exact hne (hconsistent entry (hread p hp entry hentry) entry' (hread q hq entry' hentry') htype)
  · intro hnot entry hentry entry' hentry' htype
    obtain ⟨p, hp, hread⟩ := exists_of_mem_mapM hbs _ (List.reduceOption_mem_iff.mp hentry)
    obtain ⟨q, hq, hread'⟩ := exists_of_mem_mapM hbs _ (List.reduceOption_mem_iff.mp hentry')
    by_contra hne
    refine hnot ⟨p, hp, q, hq, ?_, entry, entry', hread, hread', hne⟩
    rw [← SgxMembers.readEntry_oid hread, ← SgxMembers.readEntry_oid hread']
    exact congrArg requiredOid htype

/-! ## The order of the entries -/

theorem tcb_onceEach {env : X509Env} {stack : List Asn1} {pairs : List (Bytes × Asn1)} {tcb : Tcb}
    (hlength : stack.length = tcbSequenceLen) (hpairs : Decodes env tcbOid stack pairs)
    (hrun : Tcb.checklist.run pairs .initial tcbRequiredSgxExtensions = .ok (tcb, [])) :
    OnceEach tcbRequiredSgxExtensions pairs :=
  .of_length hpairs (by decide +kernel) (by rw [hlength]; decide)
    (Tcb.checklist.key_mem hrun)

theorem Tcb.parse_perm {env : X509Env} {der der' : Bytes} {stack stack' : List Asn1} {tcb : Tcb}
    (hder : env.d2iAsn1SequenceAny der = some stack)
    (hder' : env.d2iAsn1SequenceAny der' = some stack') (hperm : stack.Perm stack')
    (h : parse env (.sequence der) = .ok tcb) : parse env (.sequence der') = .ok tcb := by
  obtain ⟨_, stack₁, pairs, hseq, hstack, hlength, hpairs, hrun⟩ := parse_eq_ok.mp h
  cases hseq
  rw [hder] at hstack
  cases hstack
  obtain ⟨pairs', hpairs', hperm'⟩ := hpairs.perm hperm
  have hrun' := (tcb_onceEach hlength hpairs hrun).run_perm rfl TcbEntry.type_mem hperm' hrun
  exact parse_eq_ok.mpr
    ⟨der', stack', pairs', rfl, hder', hperm.length_eq ▸ hlength, hpairs', hrun'⟩

theorem platform_onceEach {env : X509Env} {stack : List Asn1} {pairs : List (Bytes × Asn1)}
    {base : SgxMembers} {start members : PlatformMembers}
    (hlength : stack.length = platformCaExtensionCount)
    (hpairs : Decodes env sgxExtensionOid stack pairs)
    (hbase : (SgxMembers.checklist env).run pairs .initial pckRequiredSgxExtensions =
      .ok (base, []))
    (hrun : (PlatformMembers.checklist env).run pairs start platformPckRequiredSgxExtensions =
      .ok (members, [])) : OnceEach platformTypes pairs := by
  apply OnceEach.of_length hpairs (by decide +kernel) (by rw [hlength]; decide)
  intro type htype
  rcases List.mem_append.mp htype with htype | htype
  · exact (SgxMembers.checklist env).key_mem hbase type htype
  · exact (PlatformMembers.checklist env).key_mem hrun type htype

theorem PlatformPckCertificate.setMembers_perm {env : X509Env} {stack stack' : List Asn1}
    {members : PlatformMembers} (hperm : stack.Perm stack')
    (h : setMembers env stack = .ok members) : setMembers env stack' = .ok members := by
  obtain ⟨hlength, pairs, base, hpairs, hbase, hrun⟩ := setMembers_eq_ok.mp h
  obtain ⟨pairs', hpairs', hperm'⟩ := hpairs.perm hperm
  have honce := platform_onceEach hlength hpairs hbase hrun
  have hbase' := honce.run_perm rfl
    (fun b => List.mem_append_left _ (SgxEntry.type_mem b)) hperm' hbase
  have hrun' := honce.run_perm rfl
    (fun b => List.mem_append_right _ (PlatformEntry.type_mem b)) hperm' hrun
  exact setMembers_eq_ok.mpr
    ⟨hperm.length_eq ▸ hlength, pairs', base, hpairs', hbase', hrun'⟩

theorem processor_onceEach {env : X509Env} {stack : List Asn1} {pairs : List (Bytes × Asn1)}
    {members : SgxMembers} (hlength : stack.length = processorCaExtensionCount)
    (hpairs : Decodes env sgxExtensionOid stack pairs)
    (hrun : (SgxMembers.checklist env).run pairs .initial pckRequiredSgxExtensions =
      .ok (members, [])) : OnceEach pckRequiredSgxExtensions pairs :=
  .of_length hpairs (by decide +kernel) (by rw [hlength]; decide)
    ((SgxMembers.checklist env).key_mem hrun)

theorem OnceEach.not_overrides {env : X509Env} {pairs : List (Bytes × Asn1)}
    {bs : List (Option SgxEntry)} (h : OnceEach pckRequiredSgxExtensions pairs)
    (hbs : (SgxMembers.checklist env).readAll pairs = .ok bs) : ¬ Overrides env pairs :=
  (consistent_iff_not_overrides hbs).mp <|
    .of_count (SgxMembers.checklist env) hbs fun b => h.count_le (SgxEntry.type_mem b)

/-- The members are those of every order exactly when no value replaces another. -/
theorem setMembers_perm_iff {env : X509Env} {stack : List Asn1} {pairs : List (Bytes × Asn1)}
    {members : SgxMembers} (h : setMembers env stack = .ok members)
    (hpairs : Decodes env sgxExtensionOid stack pairs) :
    (∀ stack', stack.Perm stack' → setMembers env stack' = .ok members) ↔
      ¬ Overrides env pairs := by
  obtain ⟨hlength, pairs₁, hpairs₁, hrun⟩ := setMembers_eq_ok.mp h
  cases hpairs.unique hpairs₁
  obtain ⟨bs, hbs⟩ := exists_readAll hrun
  rw [← consistent_iff_not_overrides hbs]
  constructor
  · intro hall
    have hruns : ∀ pairs', pairs.Perm pairs' → (SgxMembers.checklist env).run pairs' .initial
        pckRequiredSgxExtensions = .ok (members, []) := by
      intro pairs' hperm
      obtain ⟨stack', hstack, hpairs'⟩ := hpairs.of_perm hperm
      obtain ⟨_, pairs₁, hpairs₁, hrun'⟩ := setMembers_eq_ok.mp (hall stack' hstack)
      cases hpairs'.unique hpairs₁
      exact hrun'
    exact (SgxMembers.checklist env).consistent_of_forall_perm
      (fun _ _ _ _ => SgxMembers.store_inj) hbs hruns
  · intro hconsistent stack' hperm
    obtain ⟨pairs', hpairs', hperm'⟩ := hpairs.perm hperm
    exact setMembers_eq_ok.mpr ⟨hperm.length_eq ▸ hlength, pairs', hpairs',
      (SgxMembers.checklist env).run_perm hperm' hbs hconsistent hrun⟩

/-- **Processor certificates.** The extension of a processor certificate has exactly one entry
    for each required identifier, and every order of its entries gives the same members. -/
theorem ProcessorPckCertificate.setMembers_once {env : X509Env} {stack : List Asn1}
    {members : SgxMembers} (h : setMembers env stack = .ok members) :
    ∃ pairs, Decodes env sgxExtensionOid stack pairs ∧
      OnceEach pckRequiredSgxExtensions pairs ∧
      ∀ stack', stack.Perm stack' → setMembers env stack' = .ok members := by
  obtain ⟨base, hbase, h⟩ := bind_eq_ok.mp h
  obtain ⟨_, hcount, h⟩ := bind_eq_ok.mp h
  cases h
  have hlength := failUnless_eq_ok.mp hcount
  obtain ⟨_, pairs, hpairs, hrun⟩ := DcapQvl.setMembers_eq_ok.mp hbase
  have honce := processor_onceEach hlength hpairs hrun
  refine ⟨pairs, hpairs, honce, fun stack' hperm => ?_⟩
  obtain ⟨bs, hbs⟩ := exists_readAll hrun
  have hbase' := (setMembers_perm_iff hbase hpairs).mpr (honce.not_overrides hbs) stack' hperm
  refine bind_eq_ok.mpr ⟨members, hbase', bind_eq_ok.mpr ⟨(), ?_, rfl⟩⟩
  exact failUnless_eq_ok.mpr (hperm.length_eq ▸ hlength)

/-- **Entries and their order.** A TCB sequence and the extension of a platform certificate
    have exactly one entry for each required identifier, and every order of their entries
    gives the same members. So does an extension of 5 entries in the base class. One of 7
    has an entry for each required identifier, and every order gives the same members
    exactly when no entry replaces the value of another. -/
theorem sgxEntries_once (env : X509Env) :
    (∀ tcbSeq tcb, Tcb.parse env tcbSeq = .ok tcb →
      ∃ der stack pairs, tcbSeq = .sequence der ∧ env.d2iAsn1SequenceAny der = some stack ∧
        Decodes env tcbOid stack pairs ∧ OnceEach tcbRequiredSgxExtensions pairs ∧
        ∀ der' stack', env.d2iAsn1SequenceAny der' = some stack' → stack.Perm stack' →
          Tcb.parse env (.sequence der') = .ok tcb) ∧
    (∀ stack members, PlatformPckCertificate.setMembers env stack = .ok members →
      ∃ pairs, Decodes env sgxExtensionOid stack pairs ∧ OnceEach platformTypes pairs ∧
        ∀ stack', stack.Perm stack' →
          PlatformPckCertificate.setMembers env stack' = .ok members) ∧
    (∀ stack members, setMembers env stack = .ok members →
      ∃ pairs, Decodes env sgxExtensionOid stack pairs ∧
        (∀ type ∈ pckRequiredSgxExtensions, requiredOid type ∈ pairs.map Prod.fst) ∧
        (stack.length = processorCaExtensionCount →
          OnceEach pckRequiredSgxExtensions pairs ∧ ¬ Overrides env pairs) ∧
        ((∀ stack', stack.Perm stack' → setMembers env stack' = .ok members) ↔
          ¬ Overrides env pairs)) := by
  refine ⟨fun tcbSeq tcb h => ?_, fun stack members h => ?_, fun stack members h => ?_⟩
  · obtain ⟨der, stack, pairs, rfl, hstack, hlength, hpairs, hrun⟩ := Tcb.parse_eq_ok.mp h
    exact ⟨der, stack, pairs, rfl, hstack, hpairs, tcb_onceEach hlength hpairs hrun,
      fun _ _ hder' hperm => Tcb.parse_perm hstack hder' hperm h⟩
  · obtain ⟨hlength, pairs, base, hpairs, hbase, hrun⟩ :=
      PlatformPckCertificate.setMembers_eq_ok.mp h
    exact ⟨pairs, hpairs, platform_onceEach hlength hpairs hbase hrun,
      fun _ hperm => PlatformPckCertificate.setMembers_perm hperm h⟩
  · obtain ⟨_, pairs, hpairs, hrun⟩ := setMembers_eq_ok.mp h
    obtain ⟨bs, hbs⟩ := exists_readAll hrun
    refine ⟨pairs, hpairs, (SgxMembers.checklist env).key_mem hrun, fun hlength => ?_,
      setMembers_perm_iff h hpairs⟩
    have honce := processor_onceEach hlength hpairs hrun
    exact ⟨honce, honce.not_overrides hbs⟩

/-! ## Two entries for the PPID -/

/-- The sequences of a platform certificate, and a second entry for the PPID. -/
def samplePlatformSequence : Bytes → Option (List Asn1)
  | [1, 5] => samplePair platformInstanceIdOid (.octetString (List.replicate 16 1))
  | [1, 6] => samplePair configurationOid (.sequence [4])
  | [1, 7] => samplePair ppidOid (.octetString (List.replicate 16 1))
  | [1, 8] => samplePair sgxTypeOid (.enumerated 5 (2 ^ 32))
  | [4] => some ((List.range 3).map fun i => .sequence [5, UInt8.ofNat i])
  | [5, 0] => samplePair dynamicPlatformOid (.boolean 255)
  | [5, 1] => samplePair cachedKeysOid (.boolean 0)
  | [5, 2] => samplePair smtEnabledOid (.boolean 255)
  | der => sampleSequence 1 1 der

def samplePlatformX509 : X509Env :=
  { sampleX509 1 1 ⟨[], sampleName [], ⟨0, 0⟩, [], []⟩ with
    d2iAsn1SequenceAny := samplePlatformSequence }

/-- The extension of a platform certificate. -/
def samplePlatformStack : List Asn1 :=
  (List.range 7).map fun i => .sequence [1, UInt8.ofNat i]

/-- The extension of a processor certificate, a second PPID and a platform instance id. -/
def sampleTwoPpids : List Asn1 :=
  (List.range 5).map (fun i => .sequence [1, UInt8.ofNat i]) ++ [.sequence [1, 7], .sequence [1, 5]]

/-- The same with an SGX type that is stored like the first one for the second PPID. -/
def sampleTwoTypes : List Asn1 :=
  (List.range 5).map (fun i => .sequence [1, UInt8.ofNat i]) ++ [.sequence [1, 8], .sequence [1, 5]]

/-- The members with each of the two PPIDs. -/
def sampleMembersWith (byte : UInt8) : SgxMembers :=
  { samplePckCertificate.members with ppid := List.replicate 16 byte }

def samplePlatformMembers : PlatformMembers :=
  { sampleMembersWith 0 with
    platformInstanceId := List.replicate 16 1
    configuration := { dynamicPlatform := true, cachedKeys := false, smtEnabled := true } }

theorem samplePlatform_setMembers :
    PlatformPckCertificate.setMembers samplePlatformX509 samplePlatformStack =
      .ok samplePlatformMembers := by
  decide +kernel

theorem sampleTwoTypes_not_overrides {pairs : List (Bytes × Asn1)}
    (hpairs : Decodes samplePlatformX509 sgxExtensionOid sampleTwoTypes pairs) :
    ¬ Overrides samplePlatformX509 pairs := by
  have hdecoded : Decodes samplePlatformX509 sgxExtensionOid sampleTwoTypes
      [(ppidOid, .octetString (List.replicate 16 0)), (tcbOid, .sequence [2]),
        (pceIdOid, .octetString (List.replicate 2 0)),
        (fmspcOid, .octetString (List.replicate 6 0)), (sgxTypeOid, .enumerated 1 0),
        (sgxTypeOid, .enumerated 5 (2 ^ 32)),
        (platformInstanceIdOid, .octetString (List.replicate 16 1))] := by
    unfold Decodes
    decide +kernel
  have hread : (SgxMembers.checklist samplePlatformX509).readAll pairs = .ok
      [some (.ppid (List.replicate 16 0)), some (.tcb (sampleMembersWith 0).tcb),
        some (.pceId (List.replicate 2 0)), some (.fmspc (List.replicate 6 0)),
        some (.sgxType 0), some (.sgxType 0), none] := by
    rw [hpairs.unique hdecoded]
    decide +kernel
  refine (consistent_iff_not_overrides hread).mp ?_
  unfold Checklist.Consistent
  decide +kernel

/-- The members of a platform certificate do not depend on the order of its entries, nor do
    those of 7 entries of which two are stored as one SGX type. -/
theorem sgxEntries_once_sample :
    PlatformPckCertificate.setMembers samplePlatformX509 samplePlatformStack.reverse =
        .ok samplePlatformMembers ∧
      (∃ der stack pairs, Asn1.sequence [2] = .sequence der ∧
        samplePlatformX509.d2iAsn1SequenceAny der = some stack ∧
        Decodes samplePlatformX509 tcbOid stack pairs ∧
        OnceEach tcbRequiredSgxExtensions pairs ∧
        ∀ der' stack', samplePlatformX509.d2iAsn1SequenceAny der' = some stack' →
          stack.Perm stack' →
          Tcb.parse samplePlatformX509 (.sequence der') = .ok (sampleMembersWith 0).tcb) ∧
      ∀ stack', sampleTwoTypes.Perm stack' →
        setMembers samplePlatformX509 stack' = .ok (sampleMembersWith 0) := by
  obtain ⟨htcb, hplatform, hbase⟩ := sgxEntries_once samplePlatformX509
  obtain ⟨_, _, _, hperm⟩ := hplatform _ _ samplePlatform_setMembers
  obtain ⟨_, hpairs, _, _, hiff⟩ := hbase sampleTwoTypes (sampleMembersWith 0) (by decide +kernel)
  exact ⟨hperm _ (List.reverse_perm _).symm, htcb (.sequence [2]) _ (by decide +kernel),
    hiff.mpr (sampleTwoTypes_not_overrides hpairs)⟩

/-- The entries of a processor certificate in the opposite order. -/
theorem setMembers_once_sample :
    ProcessorPckCertificate.setMembers samplePlatformX509
      ((List.range 5).map fun i => .sequence [1, UInt8.ofNat i]).reverse =
        .ok (sampleMembersWith 0) := by
  obtain ⟨_, _, _, hperm⟩ := ProcessorPckCertificate.setMembers_once
    (show ProcessorPckCertificate.setMembers samplePlatformX509
      ((List.range 5).map fun i => .sequence [1, UInt8.ofNat i]) = .ok (sampleMembersWith 0) by
      decide +kernel)
  exact hperm _ (List.reverse_perm _).symm

/-- With two PPIDs among 7 entries the base class stores the last one. -/
theorem setMembers_two_ppids :
    setMembers samplePlatformX509 sampleTwoPpids = .ok (sampleMembersWith 1) ∧
      setMembers samplePlatformX509 sampleTwoPpids.reverse = .ok (sampleMembersWith 0) ∧
      sampleTwoPpids.Perm sampleTwoPpids.reverse ∧
      sampleMembersWith 1 ≠ sampleMembersWith 0 ∧
      ∀ pairs, Decodes samplePlatformX509 sgxExtensionOid sampleTwoPpids pairs →
        (pairs.map Prod.fst).count ppidOid = 2 := by
  refine ⟨by decide +kernel, by decide +kernel, (List.reverse_perm _).symm, by decide +kernel, ?_⟩
  intro pairs hpairs
  have hdecoded : Decodes samplePlatformX509 sgxExtensionOid sampleTwoPpids
      [(ppidOid, .octetString (List.replicate 16 0)), (tcbOid, .sequence [2]),
        (pceIdOid, .octetString (List.replicate 2 0)),
        (fmspcOid, .octetString (List.replicate 6 0)), (sgxTypeOid, .enumerated 1 0),
        (ppidOid, .octetString (List.replicate 16 1)),
        (platformInstanceIdOid, .octetString (List.replicate 16 1))] := by
    unfold Decodes
    decide +kernel
  rw [hpairs.unique hdecoded]
  decide +kernel

end DcapQvl
