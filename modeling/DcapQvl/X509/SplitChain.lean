import DcapQvl.X509.Chain

/-!
# Splitting any text

`CertificateChain::splitChain` on texts of blocks with given bodies, and on all
others, whatever the order of their markers.

Results:
* `isPemBlock_pemBlock`: markers around a body without dashes are a block.
* `splitChain_total`: no text makes `splitChain` throw, and what it returns are
  disjoint parts of the text in the order of the text, each up to the end marker.
* `splitChain_correct`: both, for the blocks of a text.
-/

namespace DcapQvl

open Lib

/-! ## Blocks with a body -/

/-- The markers around a body. -/
def pemBlock (body : Bytes) : Bytes := begCert ++ (body ++ endCert)

/-- The label of the end marker, without its dashes. -/
def endLabel : Bytes := str "END CERTIFICATE"

theorem endCert_label : endCert = str "-----" ++ (endLabel ++ 45 :: str "----") := by decide +kernel

/-- The end marker does not start inside the begin marker, unless the body is its label. -/
theorem endCert_not_in_begCert {body : Bytes} (hbody : 45 ∉ body) (hne : body ≠ endLabel) :
    ∀ j < begCert.length, ¬ endCert <+: (begCert ++ (body ++ endCert)).drop j := by
  intro j hj h
  rw [List.drop_append_of_le_length hj.le] at h
  have hlen : begCert.length = 27 := by decide +kernel
  rcases lt_or_ge j 22 with hlt | hge
  · -- the first six characters lie in the begin marker
    have hclosed : ∀ j < 22, ¬ endCert.take 6 <+: begCert.drop j := by decide +kernel
    refine hclosed j hlt (List.prefix_of_prefix_length_le ((List.take_prefix 6 _).trans h)
      (List.prefix_append _ _) ?_)
    rw [List.length_take, List.length_drop]
    omega
  · -- only dashes are left of the begin marker
    have hdrop : begCert.drop j = List.replicate (27 - j) 45 := by
      have hclosed : ∀ j < 27, 22 ≤ j → begCert.drop j = List.replicate (27 - j) 45 := by
        decide +kernel
      exact hclosed j (hlen ▸ hj) hge
    rw [hdrop] at h
    rcases Nat.eq_or_lt_of_le hge with rfl | hgt
    · -- the label has to be the body
      rw [endCert_label, show str "-----" = List.replicate (27 - 22) 45 from rfl,
        List.prefix_append_right_inj] at h
      have heq := eq_of_append_separator (y := str "----")
        (z := str "----" ++ (endLabel ++ 45 :: str "----")) (show 45 ∉ endLabel by decide +kernel)
        hbody h
      exact hne heq.symm
    · -- there are too few dashes before the label
      have hn : 27 - j < 5 ∧ 0 < 27 - j := by omega
      generalize 27 - j = n at h hn
      cases body with
      | nil =>
        have hclosed : ∀ n < 5, 0 < n → ¬ endCert <+: List.replicate n 45 ++ endCert := by
          decide +kernel
        exact hclosed n hn.1 hn.2 h
      | cons b body =>
        have hclosed : ∀ n < 5, endCert = List.replicate n 45 ++ 45 :: endCert.drop (n + 1) := by
          decide +kernel
        nth_rewrite 1 [hclosed n hn.1] at h
        rw [List.prefix_append_right_inj, List.cons_append, List.cons_prefix_cons] at h
        exact hbody (h.1 ▸ List.mem_cons_self ..)

/-- A body without dashes makes a block, unless it is the label of the end marker. -/
theorem isPemBlock_pemBlock {body : Bytes} (hbody : 45 ∉ body) (hne : body ≠ endLabel) :
    IsPemBlock (pemBlock body) := by
  refine ⟨List.prefix_append _ _, ?_⟩
  have hend : findFrom endCert endCert 0 = some 0 := by decide +kernel
  unfold pemBlock
  rw [findFrom_skip (endCert_not_in_begCert hbody hne), endCert_eq, findFrom_separator hbody,
    ← endCert_eq, hend, Option.map_some, Option.map_some, List.length_append, List.length_append]
  exact congrArg some (by omega)

/-- Blocks, each followed by a text without dashes. -/
theorem pemText_blocks {blocks : List (Bytes × Bytes)}
    (h : ∀ b ∈ blocks, 45 ∉ b.1 ∧ b.1 ≠ endLabel ∧ 45 ∉ b.2) {pre : Bytes} (hpre : 45 ∉ pre) :
    PemText (blocks.map fun b => pemBlock b.1)
      (pre ++ (blocks.map fun b => pemBlock b.1 ++ b.2).flatten) := by
  induction blocks generalizing pre with
  | nil =>
    rw [List.map_nil, List.map_nil, List.flatten_nil, List.append_nil]
    exact .nil hpre
  | cons b blocks ih =>
    obtain ⟨⟨hbody, hne, hsep⟩, hblocks⟩ := List.forall_mem_cons.mp h
    rw [List.map_cons, List.map_cons, List.flatten_cons, List.append_assoc]
    exact .cons hpre (isPemBlock_pemBlock hbody hne) (ih hblocks hsep)

/-! ## Any text -/

/-- A part that `splitChain` returns has both markers, and ends with the second. -/
def HasMarkers (piece : Bytes) : Prop := begCert <:+: piece ∧ endCert <:+ piece

theorem take_substr (s : Bytes) {i j : ℕ} (h : i ≤ j) : s.take j = s.take i ++ substr s i (j - i) := by
  rw [substr, ← List.take_add, Nat.add_sub_cancel' h]

theorem substr_add (s : Bytes) {i j k : ℕ} (hij : i ≤ j) (hjk : j ≤ k) :
    substr s i (k - i) = substr s i (j - i) ++ substr s j (k - j) := by
  unfold substr
  rw [show k - i = (j - i) + (k - j) by omega, List.take_add, List.drop_drop,
    Nat.add_sub_cancel' hij]

theorem substr_of_prefix {s pattern : Bytes} {i : ℕ} (h : pattern <+: s.drop i) :
    substr s i pattern.length = pattern := (List.prefix_iff_eq_take.mp h).symm

/-- The scan of the inner loop stops before the end marker. -/
theorem find_dash {s : Bytes} {newStartPos foundEndPos : ℕ} (hle : newStartPos ≤ foundEndPos)
    (hend : endCert <+: s.drop foundEndPos) :
    ∃ k, findFrom s (str "-") newStartPos = some k ∧ newStartPos ≤ k ∧ k ≤ foundEndPos := by
  have hdash : str "-" <+: s.drop foundEndPos :=
    (show str "-" <+: endCert by decide +kernel).trans hend
  have hlen := hdash.length_le
  rw [List.length_drop] at hlen
  have hpos : (str "-").length = 1 := by decide +kernel
  cases hfind : findFrom s (str "-") newStartPos with
  | none => exact absurd hdash (findFrom_eq_none_iff.mp hfind foundEndPos hle (by omega))
  | some k =>
    obtain ⟨hge, _, _, hall⟩ := findFrom_eq_some_iff.mp hfind
    refine ⟨k, rfl, hge, ?_⟩
    by_contra hlt
    exact hall foundEndPos hle (by omega) hdash

/-- What one pass of the loop adds to the parts found so far. -/
theorem splitLoop_pass {s : Bytes} {newStartPos k foundEndPos : ℕ} {ret : List Bytes}
    (hk : newStartPos ≤ k) (hle : k ≤ foundEndPos) (hend : endCert <+: s.drop foundEndPos)
    (hret : InOrder ret (s.take newStartPos)) (hmarkers : ∀ piece ∈ ret, HasMarkers piece) :
    let cert := substr s k (foundEndPos + endCert.length - k)
    let ret' := if contains cert begCert then ret ++ [cert] else ret
    InOrder ret' (s.take (foundEndPos + endCert.length)) ∧ ∀ piece ∈ ret', HasMarkers piece := by
  intro cert ret'
  have htake : s.take (foundEndPos + endCert.length) =
      s.take newStartPos ++ (substr s newStartPos (k - newStartPos) ++ cert) := by
    rw [take_substr s (show k ≤ foundEndPos + endCert.length by omega), take_substr s hk,
      List.append_assoc]
  have hcert : endCert <:+ cert := by
    have hsplit := substr_add s hle (Nat.le_add_right foundEndPos endCert.length)
    rw [Nat.add_sub_cancel_left, substr_of_prefix hend] at hsplit
    exact ⟨_, hsplit.symm⟩
  rw [htake]
  by_cases hbeg : contains cert begCert = true
  · rw [show ret' = ret ++ [cert] from if_pos hbeg]
    refine ⟨hret.append (.singleton _ cert), fun piece hpiece => ?_⟩
    rcases List.mem_append.mp hpiece with hpiece | hpiece
    · exact hmarkers piece hpiece
    · rw [List.mem_singleton.mp hpiece]
      exact ⟨of_decide_eq_true hbeg, hcert⟩
  · rw [show ret' = ret from if_neg hbeg]
    have h := hret.append (.nil (substr s newStartPos (k - newStartPos) ++ cert))
    rw [List.append_nil] at h
    exact ⟨h, hmarkers⟩

/-- The loop returns parts of the text, in order: by induction on its passes. -/
theorem splitLoop_inOrder {s : Bytes} (newStartPos foundEndPos : ℕ) (ret : List Bytes)
    (hle : newStartPos ≤ foundEndPos) (hend : endCert <+: s.drop foundEndPos)
    (hret : InOrder ret (s.take newStartPos)) (hmarkers : ∀ piece ∈ ret, HasMarkers piece) :
    ∃ pieces, splitLoop s newStartPos foundEndPos ret = .ok pieces ∧ InOrder pieces s ∧
      ∀ piece ∈ pieces, HasMarkers piece := by
  induction newStartPos, foundEndPos, ret using splitLoop.induct s with
  | case1 newStartPos foundEndPos ret hfind =>
    obtain ⟨k, hk, _⟩ := find_dash hle hend
    rw [hk] at hfind
    cases hfind
  | case2 newStartPos foundEndPos ret k hfind newEndPos hnext =>
    obtain ⟨_, hk, hge, hkle⟩ := find_dash hle hend
    rw [hfind] at hk
    cases hk
    obtain ⟨hparts, hpieces⟩ := splitLoop_pass hge hkle hend hret hmarkers
    refine ⟨_, ?_, ?_, hpieces⟩
    · rw [splitLoop, hfind]
      dsimp only
      split
      · rfl
      · rename_i h
        rw [hnext] at h
        cases h
    · have h := hparts.append (.nil (s.drop newEndPos))
      rwa [List.append_nil, List.take_append_drop] at h
  | case3 newStartPos foundEndPos ret k hfind newEndPos nextEndPos hnext hadjacent =>
    refine ⟨[], ?_, .nil s, by simp⟩
    rw [splitLoop, hfind]
    dsimp only
    split
    · rename_i h
      rw [hnext] at h
      cases h
    · rename_i h
      cases hnext.symm.trans h
      exact if_pos hadjacent
  | case4 newStartPos foundEndPos ret k hfind newEndPos cert ret' nextEndPos hnext hlater ih =>
    obtain ⟨_, hk, hge, hkle⟩ := find_dash hle hend
    rw [hfind] at hk
    cases hk
    obtain ⟨hparts, hpieces⟩ := splitLoop_pass hge hkle hend hret hmarkers
    obtain ⟨pieces, hpieces, hrest⟩ := ih (not_le.mp hlater).le
      (findFrom_eq_some_iff.mp hnext).2.2.1 hparts hpieces
    refine ⟨pieces, ?_, hrest⟩
    rw [splitLoop, hfind]
    dsimp only
    split
    · rename_i h
      rw [hnext] at h
      cases h
    · rename_i h
      cases hnext.symm.trans h
      rw [if_neg hlater]
      exact hpieces

/-- No text makes `splitChain` throw. -/
theorem splitChain_total (s : Bytes) :
    ∃ pieces, splitChain s = .ok pieces ∧ InOrder pieces s ∧ ∀ piece ∈ pieces, HasMarkers piece := by
  unfold splitChain
  split
  · rename_i begPos endPos hbeg hend
    split_ifs with hle
    · exact ⟨[], rfl, .nil s, by simp⟩
    · exact splitLoop_inOrder begPos endPos [] (not_le.mp hle).le
        (findFrom_eq_some_iff.mp hend).2.2.1 (.nil _) (by simp)
  · exact ⟨[], rfl, .nil s, by simp⟩

/-- **Splitting.** `splitChain` returns on every text, without an exception, disjoint parts of the
    text in the order of the text, each with a begin marker and up to an end marker; and on blocks
    with bodies without dashes, with texts without dashes around them, it returns the blocks. -/
theorem splitChain_correct :
    (∀ s : Bytes, ∃ pieces, splitChain s = .ok pieces ∧ InOrder pieces s ∧
      ∀ piece ∈ pieces, begCert <:+: piece ∧ endCert <:+ piece) ∧
    ∀ (pre : Bytes) (blocks : List (Bytes × Bytes)), 45 ∉ pre →
      (∀ b ∈ blocks, 45 ∉ b.1 ∧ b.1 ≠ str "END CERTIFICATE" ∧ 45 ∉ b.2) →
      splitChain (pre ++ (blocks.map fun b => begCert ++ (b.1 ++ endCert) ++ b.2).flatten) =
        .ok (blocks.map fun b => begCert ++ (b.1 ++ endCert)) :=
  ⟨splitChain_total, fun _ _ hpre h => splitChain_of_pemText (pemText_blocks h hpre)⟩

/-- Two blocks, the first one with an empty body, and nothing between them. -/
theorem splitChain_correct_sample :
    splitChain (str "x" ++ ((begCert ++ ([] ++ endCert) ++ []) ++
      ((begCert ++ (str "MII" ++ endCert) ++ str "y") ++ []))) =
      .ok [begCert ++ ([] ++ endCert), begCert ++ (str "MII" ++ endCert)] :=
  splitChain_correct.2 (str "x") [([], []), (str "MII", str "y")] (by decide +kernel)
    (by decide +kernel)

end DcapQvl
