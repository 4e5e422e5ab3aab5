import EntitySql.Text.SnakeCase
import Mathlib.Data.List.Nodup

/-!
# Spelling in snake case

What snake case keeps of a name, and when it makes one of two names.

* `SnakeCase.Spells` says that a name has a letter or a digit; all others become the empty name.
* `SnakeCase.segments` are the words of a name in lower case. `snakeCase_inj` says that names are one
  in snake case just if their segments are.
* `ofSegments_inj` and `ofSegments_append` are about text put together from segments, as the names of
  foreign keys are.
-/

namespace EntitySql

set_option autoImplicit false

namespace SnakeCase

open Letter

/-! ## Words -/

/-- The name has a letter or a digit. -/
def Spells (name : String) : Prop :=
  ∃ c ∈ name.toList, isAlphanumeric c = true

instance (name : String) : Decidable (Spells name) :=
  List.decidableBEx (fun c => isAlphanumeric c = true) name.toList

/-- A word has characters, and they come from the piece that it is split off. -/
theorem mem_splitPiece {mode : Mode} {start rest word : List Char}
    (hmode : mode = .upper → start ≠ []) (h : word ∈ splitPiece mode start rest) :
    word ≠ [] ∧ ∀ c ∈ word, c ∈ start ∨ c ∈ rest := by
  fun_induction splitPiece mode start rest with
  | case1 => cases h
  | case2 mode start c =>
    obtain rfl := List.mem_singleton.1 h
    refine ⟨by simp, fun d hd => ?_⟩
    rcases List.mem_cons.1 (List.mem_reverse.1 hd) with rfl | hd
    · exact .inr (List.mem_singleton.2 rfl)
    · exact .inl hd
  | case3 mode start c next rest _ ih =>
    rcases List.mem_cons.1 h with rfl | h
    · refine ⟨by simp, fun d hd => ?_⟩
      rcases List.mem_cons.1 (List.mem_reverse.1 hd) with rfl | hd
      · exact .inr (List.mem_cons_self ..)
      · exact .inl hd
    · obtain ⟨hne, hmem⟩ := ih (by simp) h
      refine ⟨hne, fun d hd => .inr (List.mem_cons_of_mem _ ?_)⟩
      exact (hmem d hd).resolve_left List.not_mem_nil
  | case4 mode start c next rest _ hupper ih =>
    rcases List.mem_cons.1 h with rfl | h
    · have hstart := hmode hupper.1
      exact ⟨by simpa using hstart, fun d hd => .inl (List.mem_reverse.1 hd)⟩
    · obtain ⟨hne, hmem⟩ := ih (by simp) h
      refine ⟨hne, fun d hd => .inr ?_⟩
      rcases hmem d hd with hd | hd
      · exact List.mem_cons.2 (.inl (List.mem_singleton.1 hd))
      · exact List.mem_cons_of_mem _ hd
  | case5 mode start c next rest _ _ ih =>
    obtain ⟨hne, hmem⟩ := ih (by simp) h
    refine ⟨hne, fun d hd => ?_⟩
    rcases hmem d hd with hd | hd
    · rcases List.mem_cons.1 hd with rfl | hd
      · exact .inr (List.mem_cons_self ..)
      · exact .inl hd
    · exact .inr (List.mem_cons_of_mem _ hd)

theorem splitPiece_eq_nil {mode : Mode} {start rest : List Char} :
    splitPiece mode start rest = [] ↔ rest = [] := by
  fun_induction splitPiece mode start rest with
  | case1 => simp
  | case2 => simp
  | case3 => simp
  | case4 => simp
  | case5 mode start c next rest _ _ ih => simpa using ih

theorem isAlphanumeric_of_mem_pieces {cs piece : List Char} (h : piece ∈ pieces cs) :
    ∀ c ∈ piece, isAlphanumeric c = true := by
  induction cs generalizing piece with
  | nil =>
    obtain rfl := List.mem_singleton.1 h
    exact fun c hc => absurd hc List.not_mem_nil
  | cons first rest ih =>
    unfold pieces at h
    split at h
    · next hfirst =>
      split at h
      · obtain rfl := List.mem_singleton.1 h
        intro c hc
        rw [List.mem_singleton.1 hc]
        exact hfirst
      · next head others hpieces =>
        rcases List.mem_cons.1 h with rfl | h
        · refine List.forall_mem_cons.2 ⟨hfirst, ih ?_⟩
          rw [hpieces]
          exact List.mem_cons_self ..
        · refine ih ?_
          rw [hpieces]
          exact List.mem_cons_of_mem _ h
    · rcases List.mem_cons.1 h with rfl | h
      · exact fun c hc => absurd hc List.not_mem_nil
      · exact ih h

/-- Every letter and every digit is in a piece. -/
theorem pieces_empty_iff {cs : List Char} :
    (∀ piece ∈ pieces cs, piece = []) ↔ ∀ c ∈ cs, ¬ isAlphanumeric c = true := by
  induction cs with
  | nil => simp [pieces]
  | cons first rest ih =>
    rw [List.forall_mem_cons, ← ih, pieces]
    split
    · next hfirst =>
      split <;> simp [hfirst]
    · next hfirst => simp [hfirst]

theorem mem_words {name word : List Char} (h : word ∈ words name) :
    word ≠ [] ∧ ∀ c ∈ word, isAlphanumeric c = true := by
  obtain ⟨piece, hpiece, hword⟩ := List.mem_flatMap.1 h
  obtain ⟨hne, hmem⟩ := mem_splitPiece (fun hmode => by cases hmode) hword
  refine ⟨hne, fun c hc => isAlphanumeric_of_mem_pieces hpiece c ?_⟩
  exact (hmem c hc).resolve_left List.not_mem_nil

theorem words_eq_nil {name : String} : words name.toList = [] ↔ ¬ Spells name := by
  have hwords : words name.toList = [] ↔ ∀ piece ∈ pieces name.toList, piece = [] := by
    rw [words, List.flatMap_eq_nil_iff]
    exact forall₂_congr fun piece _ => splitPiece_eq_nil
  rw [hwords, pieces_empty_iff, Spells, not_exists]
  exact forall_congr' fun c => not_and.symm

/-! ## Lower case -/

theorem ofNat_ne_underscore {code : Nat} (h : code ≠ 95) : Char.ofNat code ≠ '_' := by
  intro heq
  unfold Char.ofNat at heq
  by_cases hvalid : code.isValidChar
  · rw [dif_pos hvalid] at heq
    exact h (congrArg Char.toNat heq)
  · rw [dif_neg hvalid] at heq
    exact absurd heq (by decide)

/-- No table sends a letter as low as the underscore. -/
theorem lt_target_of_mem_runs : ∀ run ∈ lowercaseRuns, 95 < run.target := by
  decide +kernel

theorem underscore_notMem_toLower {c : Char} (h : c ≠ '_') : '_' ∉ toLower c := by
  unfold toLower
  split
  · split
    · next hcapital =>
      have hrange : 65 ≤ c.toNat ∧ c.toNat ≤ 90 := by simpa [within] using hcapital
      have hne := ofNat_ne_underscore (show c.toNat + 32 ≠ 95 by omega)
      simpa using hne.symm
    · simpa using h.symm
  · split
    · decide
    · split
      · next run hrun =>
        have htarget := lt_target_of_mem_runs run (List.mem_of_find?_eq_some hrun)
        have hne := ofNat_ne_underscore (show run.image c.toNat ≠ 95 by unfold Run.image; omega)
        simpa using hne.symm
      · simpa using h.symm

theorem toLower_ne_nil (c : Char) : toLower c ≠ [] := by
  unfold toLower
  repeat' split
  all_goals simp

theorem underscore_notMem_lowerWord {word : List Char} (h : '_' ∉ word) : '_' ∉ lowerWord word := by
  fun_induction lowerWord word with
  | case1 => exact List.not_mem_nil
  | case2 => decide
  | case3 c _ => exact underscore_notMem_toLower fun heq => h (by simp [heq])
  | case4 c rest _ ih =>
    rw [List.mem_cons, not_or] at h
    rw [List.mem_append, not_or]
    exact ⟨underscore_notMem_toLower fun heq => h.1 heq.symm, ih h.2⟩

theorem lowerWord_ne_nil {word : List Char} (h : word ≠ []) : lowerWord word ≠ [] := by
  fun_cases lowerWord word with
  | case1 => exact absurd rfl h
  | case2 => simp
  | case3 c _ => exact toLower_ne_nil c
  | case4 c rest _ => simp [toLower_ne_nil c]

/-! ## Segments -/

/-- The words of a name in lower case. A name without words has one segment, which is empty. -/
def segments (name : String) : List (List Char) :=
  if words name.toList = [] then [[]] else (words name.toList).map lowerWord

/-- Segments with an underscore between them. -/
def ofSegments (segments : List (List Char)) : String :=
  String.ofList (['_'].intercalate segments)

/-- Segments that can be told apart in the text that they make. -/
structure Segmented (segments : List (List Char)) : Prop where
  ne_nil : segments ≠ []
  free : ∀ segment ∈ segments, '_' ∉ segment

theorem segmented_segments (name : String) : Segmented (segments name) := by
  unfold segments
  split
  · exact ⟨by simp, by simp⟩
  · next hwords =>
    refine ⟨by simpa using hwords, fun segment hsegment => ?_⟩
    obtain ⟨word, hword, rfl⟩ := List.mem_map.1 hsegment
    refine underscore_notMem_lowerWord fun hmem => ?_
    have halphanumeric := (mem_words hword).2 '_' hmem
    revert halphanumeric
    decide

theorem Segmented.append {segments others : List (List Char)} (h : Segmented segments)
    (h' : Segmented others) : Segmented (segments ++ others) where
  ne_nil := by simp [h.ne_nil]
  free := List.forall_mem_append.2 ⟨h.free, h'.free⟩

theorem segments_eq_empty {name : String} : segments name = [[]] ↔ ¬ Spells name := by
  rw [← words_eq_nil]
  unfold segments
  split
  · next hwords => simp [hwords]
  · next hwords =>
    refine ⟨fun h => absurd h fun heq => ?_, fun h => absurd h hwords⟩
    obtain ⟨word, hword⟩ := List.exists_mem_of_ne_nil _ hwords
    have hempty : lowerWord word ∈ [[]] := heq ▸ List.mem_map_of_mem hword
    exact lowerWord_ne_nil (mem_words hword).1 (List.mem_singleton.1 hempty)

/-- Segments can be read off the text that they make. -/
theorem ofSegments_inj {segments others : List (List Char)} (h : Segmented segments)
    (h' : Segmented others) : ofSegments segments = ofSegments others ↔ segments = others := by
  refine ⟨fun htexts => ?_, fun hsame => hsame ▸ rfl⟩
  have hchars : ['_'].intercalate segments = ['_'].intercalate others :=
    String.ofList_injective htexts
  rw [← List.splitOn_intercalate '_' h.free h.ne_nil, hchars,
    List.splitOn_intercalate '_' h'.free h'.ne_nil]

/-- Texts repeat just if the segments that they are made of do. -/
theorem nodup_map_ofSegments {names : List (List (List Char))}
    (h : ∀ segments ∈ names, Segmented segments) :
    (names.map ofSegments).Nodup ↔ names.Nodup :=
  ⟨List.Nodup.of_map ofSegments, List.Nodup.map_on fun segments hsegments others hothers =>
    (ofSegments_inj (h segments hsegments) (h others hothers)).1⟩

theorem intercalate_cons {first : List Char} {rest : List (List Char)} (h : rest ≠ []) :
    ['_'].intercalate (first :: rest) = first ++ '_' :: ['_'].intercalate rest := by
  obtain ⟨second, rest, rfl⟩ := List.exists_cons_of_ne_nil h
  simp [List.intercalate]

theorem ofSegments_append {segments others : List (List Char)} (h : Segmented segments)
    (h' : Segmented others) :
    ofSegments (segments ++ others) = ofSegments segments ++ "_" ++ ofSegments others := by
  have hchars : ['_'].intercalate (segments ++ others) =
      ['_'].intercalate segments ++ '_' :: ['_'].intercalate others := by
    obtain ⟨hne, -⟩ := h
    induction segments with
    | nil => exact absurd rfl hne
    | cons first rest ih =>
      by_cases hrest : rest = []
      · rw [hrest, List.cons_append, List.nil_append, intercalate_cons h'.ne_nil]
        simp [List.intercalate]
      · have hboth : rest ++ others ≠ [] := by simp [hrest]
        rw [List.cons_append, intercalate_cons hboth, ih hrest, intercalate_cons hrest]
        simp only [List.append_assoc, List.cons_append]
  have hseparated : '_' :: ['_'].intercalate others = ['_'] ++ ['_'].intercalate others := rfl
  unfold ofSegments
  rw [hchars, hseparated, String.ofList_append, String.ofList_append, String.append_assoc]

end SnakeCase

open SnakeCase

theorem snakeCase_eq_ofSegments (name : String) : snakeCase name = ofSegments (segments name) := by
  unfold snakeCase segments
  split
  · next hwords => simp [hwords, ofSegments]
  · rfl

/-- Names are one in snake case just if their words are, but for upper and lower case. -/
theorem snakeCase_inj {name other : String} :
    snakeCase name = snakeCase other ↔ segments name = segments other := by
  rw [snakeCase_eq_ofSegments, snakeCase_eq_ofSegments]
  exact ofSegments_inj (segmented_segments name) (segmented_segments other)

theorem snakeCase_eq_empty {name : String} : snakeCase name = "" ↔ ¬ Spells name := by
  have hempty : "" = ofSegments [[]] := rfl
  rw [← segments_eq_empty, snakeCase_eq_ofSegments, hempty]
  exact ofSegments_inj (segmented_segments name) ⟨by simp, by simp⟩

end EntitySql
