import DcapQvl.Lib.Search
import DcapQvl.Tcb.Relaunch
import DcapQvl.Verify.Quote

/-!
# The identity of the TDX module

`findTdxModuleIdentity` takes the first identity of the array whose identifier names the major
version. The parser keeps the identities in the order of the array and does not compare
their identifiers.

Results:
* `findTdxModuleIdentity_isSome`, `findTdxModuleIdentity_first`: which identity is found.
* `tdxModuleIdentity_selected`: where the identities that name a version are one, what is
  verified and evaluated does not depend on the order of the array.
-/

namespace DcapQvl

open Lib

/-! ## Identifiers -/

/-- `TDX_` and the two hexadecimal digits of a major version. -/
def moduleIdOf (version : UInt8) : Bytes :=
  str "TDX_" ++
    ((Nat.toDigits 16 version.toNat).leftpad 2 '0').map fun digit => UInt8.ofNat digit.toNat

/-- The identifier of an identity names a major version, up to the case of its letters. -/
def NamesVersion (version : UInt8) (identity : TdxModuleIdentity) : Prop :=
  identity.id.map toupper = (moduleIdOf version).map toupper

instance (version : UInt8) : DecidablePred (NamesVersion version) := fun identity =>
  inferInstanceAs (Decidable (identity.id.map toupper = (moduleIdOf version).map toupper))

theorem map_toupper_moduleIdOf (version : UInt8) :
    (moduleIdOf version).map toupper = str "TDX_" ++ bytesToHexString [version] := by
  have h : ∀ n < 256, (moduleIdOf (UInt8.ofNat n)).map toupper =
      str "TDX_" ++ bytesToHexString [UInt8.ofNat n] := by decide +kernel
  have hversion := h version.toNat version.toNat_lt
  rwa [UInt8.ofNat_toNat] at hversion

theorem findTdxModuleIdentity_eq (identities : List TdxModuleIdentity) (version : UInt8) :
    findTdxModuleIdentity identities version =
      identities.find? fun identity => decide (NamesVersion version identity) := by
  unfold findTdxModuleIdentity NamesVersion
  simp only [map_toupper_moduleIdOf]

/-! ## The identity that is found -/

section Found

variable {identities identities' : List TdxModuleIdentity} {version : UInt8}

theorem findTdxModuleIdentity_isSome :
    (findTdxModuleIdentity identities version).isSome ↔
      ∃ identity ∈ identities, NamesVersion version identity := by
  rw [findTdxModuleIdentity_eq, List.find?_isSome]
  simp only [decide_eq_true_eq]

theorem findTdxModuleIdentity_first {identity : TdxModuleIdentity}
    (h : findTdxModuleIdentity identities version = some identity) :
    NamesVersion version identity ∧ ∃ before after,
      identities = before ++ identity :: after ∧ ∀ i ∈ before, ¬ NamesVersion version i := by
  rw [findTdxModuleIdentity_eq, List.find?_eq_some_iff_append] at h
  obtain ⟨hnames, before, after, heq, hbefore⟩ := h
  exact ⟨of_decide_eq_true hnames, before, after, heq, fun i hi => by simpa using hbefore i hi⟩

/-- The identities of the array that name the version are one. -/
def Unambiguous (identities : List TdxModuleIdentity) (version : UInt8) : Prop :=
  ∀ i ∈ identities, ∀ j ∈ identities, NamesVersion version i → NamesVersion version j → i = j

theorem findTdxModuleIdentity_perm (h : identities.Perm identities')
    (hone : Unambiguous identities version) :
    findTdxModuleIdentity identities' version = findTdxModuleIdentity identities version := by
  rw [findTdxModuleIdentity_eq, findTdxModuleIdentity_eq]
  refine (find?_perm h fun i hi j hj hni hnj => ?_).symm
  exact hone i hi j hj (of_decide_eq_true hni) (of_decide_eq_true hnj)

/-- The array of the identities and a permutation of it. -/
theorem TcbInfo.parseTdxModuleIdentities_perm {env : JsonEnv} {elems elems' : List Json}
    (h : elems.Perm elems')
    (hparse : parseTdxModuleIdentities env (.array elems) = .ok identities) :
    ∃ identities', parseTdxModuleIdentities env (.array elems') = .ok identities' ∧
      identities.Perm identities' := by
  obtain ⟨_, hval, hparse⟩ := bind_eq_ok.mp hparse
  cases hval
  obtain ⟨is, his, hparse⟩ := bind_eq_ok.mp hparse
  obtain ⟨_, hne, hparse⟩ := bind_eq_ok.mp hparse
  cases hparse
  have hagree := Agree.mapM_perm (TdxModuleIdentity.parse env) h
  rw [his] at hagree
  cases hmap : elems'.mapM (TdxModuleIdentity.parse env) with
  | error e =>
    rw [hmap] at hagree
    cases hagree
  | ok identities' =>
    rw [hmap] at hagree
    obtain ⟨hperm⟩ := hagree
    refine ⟨identities', bind_eq_ok.mpr ⟨elems', rfl, bind_eq_ok.mpr ⟨identities', hmap, ?_⟩⟩,
      hperm⟩
    refine bind_eq_ok.mpr ⟨(), throwUnless_eq_ok.mpr fun hnil => ?_, rfl⟩
    rw [hnil] at hperm
    exact throwUnless_eq_ok.mp hne hperm.eq_nil

end Found

/-! ## What reads it -/

section Reads

variable {tcbInfo : TcbInfo} {identities' : List TdxModuleIdentity} {version : UInt8}

theorem TcbInfo.getTdxModuleIdentities_with :
    { tcbInfo with tdxModuleIdentities := identities' }.getTdxModuleIdentities =
      tcbInfo.getTdxModuleIdentities.map fun _ => identities' := by
  simp only [getTdxModuleIdentities, throwUnless]
  split_ifs <;> rfl

theorem TcbInfo.getTdxModuleIdentities_eq_ok {identities : List TdxModuleIdentity}
    (h : tcbInfo.getTdxModuleIdentities = .ok identities) :
    identities = tcbInfo.tdxModuleIdentities := by
  obtain ⟨_, _, h⟩ := bind_eq_ok.mp h
  obtain ⟨_, _, h⟩ := bind_eq_ok.mp h
  exact (Except.ok.inj h).symm

theorem tdxModuleOf_congr {quote : Quote} (hversion : majorSvn quote.getTeeTcbSvn = version)
    (hfind : findTdxModuleIdentity identities' version =
      findTdxModuleIdentity tcbInfo.tdxModuleIdentities version) :
    QuoteVerifier.tdxModuleOf quote { tcbInfo with tdxModuleIdentities := identities' } =
      QuoteVerifier.tdxModuleOf quote tcbInfo := by
  unfold QuoteVerifier.tdxModuleOf
  rw [hversion, TcbInfo.getTdxModuleIdentities_with]
  cases hget : tcbInfo.getTdxModuleIdentities with
  | error e => rfl
  | ok identities =>
    rw [TcbInfo.getTdxModuleIdentities_eq_ok hget]
    simp only [Except.map, hfind]
    rfl

theorem evaluateTdxModule_congr {teeTcbSvns : Bytes}
    (hversion : teeTcbSvns[tdxModuleMajorSvnIndex]? = some version)
    (hfind : findTdxModuleIdentity identities' version =
      findTdxModuleIdentity tcbInfo.tdxModuleIdentities version) :
    evaluateTdxModule teeTcbSvns { tcbInfo with tdxModuleIdentities := identities' } =
      evaluateTdxModule teeTcbSvns tcbInfo := by
  unfold evaluateTdxModule vectorAt
  rw [hversion, TcbInfo.getTdxModuleIdentities_with]
  cases hget : tcbInfo.getTdxModuleIdentities with
  | error e => rfl
  | ok identities =>
    rw [TcbInfo.getTdxModuleIdentities_eq_ok hget]
    simp only [Except.map, ok_bind, hfind]

end Reads

/-- **The selected identity.** An identity is found exactly when the array has one whose
    identifier names the version, and it is the first such one. When the identities that name
    the version are one, then the array and a permutation of it lead to the same identity, to
    the same signer and attributes to compare, and to the same evaluation. -/
theorem tdxModuleIdentity_selected (env : JsonEnv) (tcbInfo : TcbInfo) (version : UInt8) :
    ((findTdxModuleIdentity tcbInfo.tdxModuleIdentities version).isSome ↔
      ∃ identity ∈ tcbInfo.tdxModuleIdentities, NamesVersion version identity) ∧
    (∀ identity, findTdxModuleIdentity tcbInfo.tdxModuleIdentities version = some identity →
      NamesVersion version identity ∧ ∃ before after,
        tcbInfo.tdxModuleIdentities = before ++ identity :: after ∧
        ∀ i ∈ before, ¬ NamesVersion version i) ∧
    ∀ elems elems', TcbInfo.parseTdxModuleIdentities env (.array elems) =
        .ok tcbInfo.tdxModuleIdentities → elems.Perm elems' →
      Unambiguous tcbInfo.tdxModuleIdentities version →
      ∃ identities', TcbInfo.parseTdxModuleIdentities env (.array elems') = .ok identities' ∧
        findTdxModuleIdentity identities' version =
          findTdxModuleIdentity tcbInfo.tdxModuleIdentities version ∧
        (∀ quote, majorSvn quote.getTeeTcbSvn = version →
          QuoteVerifier.tdxModuleOf quote { tcbInfo with tdxModuleIdentities := identities' } =
            QuoteVerifier.tdxModuleOf quote tcbInfo) ∧
        ∀ tcbComponents pceSvn qeSvn teeTcbSvns qeIdentity out,
          teeTcbSvns[tdxModuleMajorSvnIndex]? = some version →
          tdxEvaluateTCB tcbComponents pceSvn qeSvn teeTcbSvns
              { tcbInfo with tdxModuleIdentities := identities' } qeIdentity out =
            tdxEvaluateTCB tcbComponents pceSvn qeSvn teeTcbSvns tcbInfo qeIdentity out := by
  refine ⟨findTdxModuleIdentity_isSome, fun _ => findTdxModuleIdentity_first, ?_⟩
  intro elems elems' hparse hperm hone
  obtain ⟨identities', hparse', hidentities⟩ := TcbInfo.parseTdxModuleIdentities_perm hperm hparse
  have hfind := findTdxModuleIdentity_perm hidentities hone
  refine ⟨identities', hparse', hfind, fun quote hversion => tdxModuleOf_congr hversion hfind, ?_⟩
  intro tcbComponents pceSvn qeSvn teeTcbSvns qeIdentity out hversion
  unfold tdxEvaluateTCB
  rw [evaluateTdxModule_congr hversion hfind]

/-! Arrays of two identities. -/

/-- An object with another value of a member. -/
def Json.withMember (name : Bytes) (value : Json → Json) : Json → Json
  | .object ms => .object (ms.map fun m => if m.1 = name then (m.1, value m.2) else m)
  | v => v

/-- A module identity with a signer of one byte. -/
def sampleModuleIdentity (id : Bytes) (digit : UInt8) : Json :=
  .object [(str "id", .string id), (str "mrsigner", .string (List.replicate 96 digit)),
    (str "attributes", sampleZeros 8), (str "attributesMask", sampleZeros 8),
    (str "tcbLevels", .array [sampleIsvLevel 2 (str "UpToDate") []])]

/-- What is parsed from it. -/
def sampleTwoParsed (id : Bytes) (byte : UInt8) : TdxModuleIdentity :=
  { id, mrsigner := List.replicate 48 byte, attributes := List.replicate 8 0
    attributesMask := List.replicate 8 0
    tcbLevels := [{ tcb := { isvsvn := 2 }, tcbDate := sampleEpoch
                    tcbStatus := str "UpToDate", advisoryIDs := [] }] }

/-- Two identities for two versions, and what is parsed from them. -/
def sampleNamedIdentities : List Json :=
  [sampleModuleIdentity (str "TDX_01") 48, sampleModuleIdentity (str "TDX_02") 49]

def sampleNamedInfo : TcbInfo :=
  { sampleInfo with
    tdxModuleIdentities := [sampleTwoParsed (str "TDX_01") 0, sampleTwoParsed (str "TDX_02") 17] }

/-- Exchanging them changes neither the module that a quote is compared with nor its
    evaluation. -/
theorem tdxModuleIdentity_selected_sample :
    ∃ identities', TcbInfo.parseTdxModuleIdentities (sampleEnv [])
        (.array sampleNamedIdentities.reverse) = .ok identities' ∧
      findTdxModuleIdentity identities' 1 = some (sampleTwoParsed (str "TDX_01") 0) ∧
      QuoteVerifier.tdxModuleOf QuoteLayout.sampleTd15.quote
          { sampleNamedInfo with tdxModuleIdentities := identities' } =
        QuoteVerifier.tdxModuleOf QuoteLayout.sampleTd15.quote sampleNamedInfo ∧
      ∀ out, tdxEvaluateTCB (List.replicate 16 0) 0 5 sampleTeeTcbSvns.toList
          { sampleNamedInfo with tdxModuleIdentities := identities' } (some sampleQeIdentity) out =
        tdxEvaluateTCB (List.replicate 16 0) 0 5 sampleTeeTcbSvns.toList sampleNamedInfo
          (some sampleQeIdentity) out := by
  have hparse : TcbInfo.parseTdxModuleIdentities (sampleEnv []) (.array sampleNamedIdentities) =
      .ok sampleNamedInfo.tdxModuleIdentities := by decide +kernel
  have hone : Unambiguous sampleNamedInfo.tdxModuleIdentities 1 := by
    unfold Unambiguous
    decide +kernel
  obtain ⟨identities', hparse', hfind, hmodule, hevaluate⟩ :=
    (tdxModuleIdentity_selected (sampleEnv []) sampleNamedInfo 1).2.2 _ _ hparse
      (List.reverse_perm sampleNamedIdentities).symm hone
  refine ⟨identities', hparse', ?_, hmodule _ (by decide +kernel), fun out => ?_⟩
  · rw [hfind]
    decide +kernel
  · exact hevaluate _ _ _ _ _ out rfl

/-- Two identities of one identifier. -/
def sampleTwoIdentities : List Json :=
  [sampleModuleIdentity (str "TDX_01") 48, sampleModuleIdentity (str "tdx_01") 49]

def sampleTwoIdentitiesDocument : Json :=
  sampleTcbInfoDocument.withMember (str "tcbInfo")
    (Json.withMember (str "tdxModuleIdentities") fun _ => .array sampleTwoIdentities)

def sampleTwoIdentitiesInfo : TcbInfo :=
  { sampleInfo with
    infoBody := ((sampleTwoIdentitiesDocument.member? (str "tcbInfo")).map Json.render).getD []
    tdxModuleIdentities := [sampleTwoParsed (str "TDX_01") 0, sampleTwoParsed (str "tdx_01") 17] }

/-- A TCB Info with two identities for version 1 is parsed, and the order decides which is
    found. -/
theorem tdxModuleIdentity_ambiguous :
    ∃ tcbInfo, TcbInfo.parse (sampleEnv [sampleTwoIdentitiesDocument])
        sampleTwoIdentitiesDocument.render = .ok tcbInfo ∧ tcbInfo.id = tdxId ∧
      ∃ i j, tcbInfo.tdxModuleIdentities = [i, j] ∧ NamesVersion 1 i ∧ NamesVersion 1 j ∧
        i.mrsigner ≠ j.mrsigner ∧ findTdxModuleIdentity [i, j] 1 = some i ∧
        findTdxModuleIdentity [j, i] 1 = some j := by
  refine ⟨sampleTwoIdentitiesInfo, by decide +kernel, rfl, _, _, rfl, ?_⟩
  decide +kernel

end DcapQvl
