import EntitySql.Sql.Lexeme
import Mathlib.Data.List.Chain

/-!
# Scanning statement text

A scanner that tells what is quoted in a statement from what is not, and the lists of pieces that it
reads back.

* `Quoted` is what stands between quotes: a name between double ones, the content of a string between
  single ones.
* `tokens?` scans a text. Inside quotes two of their kind stand for one.
* In a `Lexeme.Legible` list of pieces only quoted pieces have quotes, and no two of them touch.
  `Lexeme.tokens?_join` says that such a list is read back from its text.
-/

namespace EntitySql

set_option autoImplicit false

/-! ## The scanner -/

/-- A kind of quotes. -/
inductive Quote where
  | double
  | single

/-- A decoded name or string. -/
inductive Quoted where
  | ident (name : String)
  | str (content : String)
deriving DecidableEq

/-- What a scanner finds: a character outside quotes, or something quoted. -/
inductive Token where
  | outer (c : Char)
  | quoted (content : Quoted)
deriving DecidableEq

namespace Quote

def char : Quote → Char
  | double => '"'
  | single => '\x27'

def ofChar? (c : Char) : Option Quote :=
  if c = '"' then some double else if c = '\x27' then some single else none

/-- What a text between these quotes is. -/
def quoted : Quote → String → Quoted
  | double, name => .ident name
  | single, content => .str content

theorem ofChar?_char (quote : Quote) : ofChar? quote.char = some quote := by
  cases quote with
  | double => rfl
  | single => rfl

end Quote

namespace Token

def quoted? : Token → Option Quoted
  | outer _ => none
  | quoted content => some content

/-- The token without what is between its quotes. -/
def blank : Token → Token
  | outer c => outer c
  | quoted (.ident _) => quoted (.ident "")
  | quoted (.str _) => quoted (.str "")

end Token

/-- Where a scanner stands in a text. -/
inductive Scanner where
  | outside
  /-- Between quotes, after some content. -/
  | inside (quote : Quote) (content : List Char)
  /-- After a quote that ends the content, or is the first of two. -/
  | closing (quote : Quote) (content : List Char)

namespace Scanner

/-- Reads a character that is not between quotes. -/
def start (c : Char) : Scanner × List Token :=
  match Quote.ofChar? c with
  | some quote => (inside quote [], [])
  | none => (outside, [.outer c])

def token (quote : Quote) (content : List Char) : Token :=
  .quoted (quote.quoted (String.ofList content))

/-- Reads a character. -/
def step : Scanner → Char → Scanner × List Token
  | outside, c => start c
  | inside quote content, c =>
    if c = quote.char then (closing quote content, []) else (inside quote (content ++ [c]), [])
  | closing quote content, c =>
    if c = quote.char then (inside quote (content ++ [c]), [])
    else ((start c).1, token quote content :: (start c).2)

/-- What is left at the end of a text, unless it ends between quotes. -/
def finish : Scanner → Option (List Token)
  | outside => some []
  | inside .. => none
  | closing quote content => some [token quote content]

def scan : Scanner → List Char → Option (List Token)
  | scanner, [] => scanner.finish
  | scanner, c :: rest => (scan (scanner.step c).1 rest).map ((scanner.step c).2 ++ ·)

end Scanner

/-- The tokens of a text, if it ends outside quotes. -/
def tokens? (text : String) : Option (List Token) :=
  Scanner.outside.scan text.toList

/-! ## Text without quotes -/

def Unquoted (text : List Char) : Prop :=
  ∀ c ∈ text, Quote.ofChar? c = none

instance (text : List Char) : Decidable (Unquoted text) :=
  List.decidableBAll (fun c => Quote.ofChar? c = none) text

theorem Unquoted.append {text other : List Char} (h : Unquoted text) (h' : Unquoted other) :
    Unquoted (text ++ other) :=
  List.forall_mem_append.2 ⟨h, h'⟩

theorem Unquoted.cons {c : Char} {text : List Char} (hc : Quote.ofChar? c = none)
    (h : Unquoted text) : Unquoted (c :: text) :=
  List.forall_mem_cons.2 ⟨hc, h⟩

/-- A text as numbers have it: of digits, signs, points and the letter before an exponent. -/
def Numeric (text : List Char) : Prop :=
  ∀ c ∈ text, c.isDigit = true ∨ c ∈ ['-', '+', '.', 'e']

instance (text : List Char) : Decidable (Numeric text) :=
  List.decidableBAll (fun c : Char => c.isDigit = true ∨ c ∈ ['-', '+', '.', 'e']) text

theorem Numeric.append {text other : List Char} (h : Numeric text) (h' : Numeric other) :
    Numeric (text ++ other) :=
  List.forall_mem_append.2 ⟨h, h'⟩

theorem Numeric.cons {c : Char} {text : List Char} (hc : Numeric [c]) (h : Numeric text) :
    Numeric (c :: text) :=
  hc.append h

theorem Numeric.unquoted {text : List Char} (h : Numeric text) : Unquoted text := by
  intro c hc
  have hother : ∀ quote : Char, quote.isDigit = false → quote ∉ ['-', '+', '.', 'e'] → c ≠ quote := by
    rintro quote hdigit hmark rfl
    rcases h c hc with hc' | hc'
    · rw [hdigit] at hc'
      cases hc'
    · exact hmark hc'
  rw [Quote.ofChar?, if_neg (hother '"' (by decide) (by decide)),
    if_neg (hother '\x27' (by decide) (by decide))]

theorem numeric_toDigits (n : Nat) : Numeric (Nat.toDigits 10 n) :=
  fun _ hc => .inl (Nat.isDigit_of_mem_toDigits (by decide) (by decide) hc)

theorem numeric_nat (n : Nat) : Numeric (toString n).toList := by
  rw [Nat.toString_eq_ofList_toDigits, String.toList_ofList]
  exact numeric_toDigits n

theorem numeric_int (n : Int) : Numeric (toString n).toList := by
  cases n with
  | ofNat n => exact numeric_nat n
  | negSucc n =>
    change Numeric ("-" ++ toString (n + 1)).toList
    rw [String.toList_append]
    exact Numeric.append (by decide) (numeric_nat (n + 1))

theorem int_ne_empty (n : Int) : toString n ≠ "" := by
  cases n with
  | ofNat n =>
    intro hempty
    have htext : (toString n).toList = [] := congrArg String.toList hempty
    rw [Nat.toString_eq_ofList_toDigits, String.toList_ofList] at htext
    exact Nat.toDigits_ne_nil htext
  | negSucc n =>
    intro hempty
    exact absurd (String.append_eq_empty_iff.1 hempty).1 (by decide)

namespace Double

theorem numeric_layout {digits : List Char} (h : Numeric digits) (point : Int) :
    Numeric (layout digits point) := by
  have hzeros : ∀ n, Numeric (List.replicate n '0') := by
    intro n c hc
    obtain rfl := List.eq_of_mem_replicate hc
    exact .inl rfl
  have htake : ∀ n, Numeric (digits.take n) := fun n c hc => h c (List.mem_of_mem_take hc)
  have hdrop : ∀ n, Numeric (digits.drop n) := fun n c hc => h c (List.mem_of_mem_drop hc)
  unfold layout
  split
  · split
    · exact (Numeric.append (by decide) (hzeros _)).append h
    · split
      · exact (h.append (hzeros _)).append (by decide)
      · exact ((htake _).append (by decide)).append (hdrop _)
  · refine (((htake 1).append ?_).append ?_).append (numeric_toDigits _)
    · split
      · exact List.forall_mem_nil _
      · exact .cons (by decide) (hdrop 1)
    · split <;> decide

theorem numeric_toText (x : Double) : Numeric x.toText.toList := by
  have hmagnitude : ∀ magnitude, Numeric (magnitudeText magnitude) := by
    intro magnitude
    unfold magnitudeText
    split
    · decide
    · refine numeric_layout (fun c hc => ?_) _
      have hkept := (List.dropWhile_sublist _).subset (List.mem_reverse.1 hc)
      exact numeric_toDigits _ c (List.mem_reverse.1 hkept)
  unfold toText
  rw [String.toList_ofList]
  split
  · exact .cons (by decide) (hmagnitude _)
  · exact hmagnitude _

theorem layout_ne_nil (digits : List Char) (point : Int) : layout digits point ≠ [] := by
  unfold layout
  split
  · split
    · exact List.cons_ne_nil _ _
    · split
      · exact List.append_ne_nil_of_right_ne_nil _ (List.cons_ne_nil _ _)
      · refine List.append_ne_nil_of_left_ne_nil ?_ _
        exact List.append_ne_nil_of_right_ne_nil _ (List.cons_ne_nil _ _)
  · exact List.append_ne_nil_of_right_ne_nil _ Nat.toDigits_ne_nil

theorem toText_ne_empty (x : Double) : x.toText ≠ "" := by
  have hmagnitude : ∀ magnitude, magnitudeText magnitude ≠ [] := by
    intro magnitude
    unfold magnitudeText
    split
    · exact List.cons_ne_nil _ _
    · exact layout_ne_nil _ _
  intro hempty
  have htext := congrArg String.toList hempty
  rw [toText, String.toList_ofList] at htext
  split at htext
  · cases htext
  · exact hmagnitude _ htext

end Double

namespace Scanner

theorem scan_silent {scanner next : Scanner} {c : Char} (h : scanner.step c = (next, []))
    (rest : List Char) : scanner.scan (c :: rest) = next.scan rest := by
  rw [scan, h]
  cases next.scan rest <;> rfl

theorem scan_unquoted {text : List Char} (h : Unquoted text) (rest : List Char) :
    outside.scan (text ++ rest) = (outside.scan rest).map (text.map Token.outer ++ ·) := by
  induction text with
  | nil =>
    change outside.scan rest = _
    cases outside.scan rest <;> rfl
  | cons c text ih =>
    obtain ⟨hc, htext⟩ := List.forall_mem_cons.1 h
    have hstep : outside.step c = (outside, [.outer c]) := by
      rw [step, start, hc]
    rw [List.cons_append, scan, hstep, ih htext, Option.map_map]
    rfl

/-- Between quotes a text with its quotes doubled is read as content. -/
theorem scan_double (quote : Quote) (content text rest : List Char) :
    (inside quote content).scan (Lexeme.double quote.char text ++ rest) =
      (inside quote (content ++ text)).scan rest := by
  induction text generalizing content with
  | nil =>
    rw [List.append_nil]
    rfl
  | cons c text ih =>
    have hcontent : content ++ c :: text = content ++ [c] ++ text := by
      rw [List.append_assoc, List.singleton_append]
    rw [hcontent, ← ih (content ++ [c]), Lexeme.double, List.flatMap_cons, List.append_assoc]
    -- a quote of the text was doubled: the first leaves the content, the second returns to it
    by_cases hc : c = quote.char
    · have hfirst : (inside quote content).step c = (closing quote content, []) := if_pos hc
      have hsecond : (closing quote content).step c = (inside quote (content ++ [c]), []) := if_pos hc
      rw [if_pos hc, List.cons_append, List.singleton_append, scan_silent hfirst,
        scan_silent hsecond]
      rfl
    · have hstep : (inside quote content).step c = (inside quote (content ++ [c]), []) := if_neg hc
      rw [if_neg hc, List.singleton_append, scan_silent hstep]
      rfl

/-- A quote that is not followed by another one ends the content. -/
theorem scan_closing (quote : Quote) (content : List Char) {rest : List Char}
    (h : ∀ c ∈ rest.head?, Quote.ofChar? c = none) :
    (closing quote content).scan rest = (outside.scan rest).map (token quote content :: ·) := by
  cases rest with
  | nil => rfl
  | cons c rest =>
    have hc : Quote.ofChar? c = none := h c rfl
    have hother : c ≠ quote.char := by
      rintro rfl
      rw [Quote.ofChar?_char] at hc
      cases hc
    have hstep : (closing quote content).step c =
        ((outside.step c).1, token quote content :: (outside.step c).2) := if_neg hother
    rw [scan, scan, hstep, Option.map_map]
    rfl

theorem scan_enclose (quote : Quote) (text : String) {rest : List Char}
    (h : ∀ c ∈ rest.head?, Quote.ofChar? c = none) :
    outside.scan ((Lexeme.enclose quote.char text).toList ++ rest) =
      (outside.scan rest).map (.quoted (quote.quoted text) :: ·) := by
  have hopen : outside.step quote.char = (inside quote [], []) := by
    rw [step, start, Quote.ofChar?_char]
  have hclose : (inside quote text.toList).step quote.char = (closing quote text.toList, []) :=
    if_pos rfl
  rw [Lexeme.enclose, String.toList_ofList, List.cons_append, List.cons_append, List.append_assoc,
    scan_silent hopen, scan_double, List.nil_append, List.singleton_append, scan_silent hclose,
    scan_closing quote _ h, token, String.ofList_toList]

end Scanner

/-! ## Legible pieces -/

namespace Lexeme

def quoted? : Lexeme → Option Quoted
  | ident name => some (.ident name)
  | str content => some (.str content)
  | plain _ | param _ => none

/-- The tokens of a piece. -/
def tokens : Lexeme → List Token
  | ident name => [.quoted (.ident name)]
  | str content => [.quoted (.str content)]
  | plain text => text.toList.map .outer
  | param index => (param index).text.toList.map .outer

/-- The piece without what is between its quotes. -/
def blank : Lexeme → Lexeme
  | ident _ => ident ""
  | str _ => str ""
  | plain text => plain text
  | param index => param index

/-- A piece that is quoted, or has some text and no quotes in it. -/
def Clean : Lexeme → Prop
  | plain text => text ≠ "" ∧ Unquoted text.toList
  | ident _ | str _ | param _ => True

/-- Pieces that are clean, no two quoted ones side by side. -/
structure Legible (lexemes : List Lexeme) : Prop where
  clean : ∀ lexeme ∈ lexemes, lexeme.Clean
  apart : lexemes.IsChain fun first second => first.quoted? = none ∨ second.quoted? = none

/-- A clean piece that is not quoted has some text, without quotes. -/
theorem unquoted_of_clean {lexeme : Lexeme} (h : lexeme.Clean) (hquoted : lexeme.quoted? = none) :
    lexeme.text ≠ "" ∧ Unquoted lexeme.text.toList ∧
      lexeme.tokens = lexeme.text.toList.map .outer := by
  cases lexeme with
  | plain text => exact ⟨h.1, h.2, rfl⟩
  | param index =>
    have htext : (param index).text.toList = '$' :: (toString index).toList := by
      rw [text, String.toList_append]
      rfl
    refine ⟨fun hempty => ?_, ?_, rfl⟩
    · rw [hempty] at htext
      cases htext
    · rw [htext]
      exact .cons rfl (numeric_nat index).unquoted
  | ident name => cases hquoted
  | str content => cases hquoted

theorem scan_lexeme {lexeme : Lexeme} (h : lexeme.Clean) {rest : List Char}
    (hrest : lexeme.quoted? = none ∨ ∀ c ∈ rest.head?, Quote.ofChar? c = none) :
    Scanner.outside.scan (lexeme.text.toList ++ rest) =
      (Scanner.outside.scan rest).map (lexeme.tokens ++ ·) := by
  cases hquoted : lexeme.quoted? with
  | none =>
    obtain ⟨-, hunquoted, htokens⟩ := unquoted_of_clean h hquoted
    rw [htokens]
    exact Scanner.scan_unquoted hunquoted rest
  | some quoted =>
    have hapart : ∀ c ∈ rest.head?, Quote.ofChar? c = none := by
      rcases hrest with hnone | hapart
      · rw [hquoted] at hnone
        cases hnone
      · exact hapart
    cases lexeme with
    | ident name => exact Scanner.scan_enclose .double name hapart
    | str content => exact Scanner.scan_enclose .single content hapart
    | plain text => cases hquoted
    | param index => cases hquoted

/-- Legible pieces are read back from their text, each as it is meant. -/
theorem tokens?_join {lexemes : List Lexeme} (h : Legible lexemes) :
    tokens? (join lexemes) = some (lexemes.flatMap tokens) := by
  obtain ⟨hclean, hapart⟩ := h
  rw [tokens?, join, String.toList_join, List.flatMap_map]
  -- The scanner is outside again after each piece: what follows a quoted one begins with no quote.
  induction lexemes with
  | nil => rfl
  | cons first rest ih =>
    have hread := ih (fun lexeme hmem => hclean lexeme (List.mem_cons_of_mem _ hmem)) hapart.tail
    rw [List.flatMap_cons, scan_lexeme (hclean first (List.mem_cons_self ..)) ?_, hread]
    · rfl
    · cases rest with
      | nil => exact .inr fun c hc => by cases hc
      | cons second rest =>
        refine (List.isChain_cons_cons.1 hapart).1.imp_right fun hquoted c hc => ?_
        have hsecond := hclean second (List.mem_cons_of_mem _ (List.mem_cons_self ..))
        obtain ⟨hne, hunquoted, -⟩ := unquoted_of_clean hsecond hquoted
        refine hunquoted c ?_
        rw [List.flatMap_cons] at hc
        cases htext : second.text.toList with
        | nil => exact absurd (String.toList_eq_nil_iff.1 htext) hne
        | cons d text =>
          rw [htext, List.cons_append] at hc
          obtain rfl := Option.some.inj hc
          exact List.mem_cons_self ..

/-! ## Tokens of pieces -/

theorem tokens_blank (lexeme : Lexeme) : lexeme.blank.tokens = lexeme.tokens.map Token.blank := by
  cases lexeme with
  | plain text =>
    rw [tokens, List.map_map]
    rfl
  | param index =>
    rw [tokens, List.map_map]
    rfl
  | ident name => rfl
  | str content => rfl

theorem quoted?_tokens (lexeme : Lexeme) :
    lexeme.tokens.filterMap Token.quoted? = lexeme.quoted?.toList := by
  have houter : ∀ text : List Char, (text.map Token.outer).filterMap Token.quoted? = [] := by
    intro text
    rw [List.filterMap_map]
    exact List.filterMap_eq_nil_iff.2 fun _ _ => rfl
  cases lexeme with
  | plain text => exact houter _
  | param index => exact houter _
  | ident name => rfl
  | str content => rfl

theorem quoted?_flatMap_tokens (lexemes : List Lexeme) :
    (lexemes.flatMap tokens).filterMap Token.quoted? = lexemes.filterMap quoted? := by
  induction lexemes with
  | nil => rfl
  | cons first rest ih =>
    rw [List.flatMap_cons, List.filterMap_append, ih, quoted?_tokens, List.filterMap_cons]
    cases first.quoted? <;> rfl

theorem map_blank_tokens (lexemes : List Lexeme) :
    (lexemes.flatMap tokens).map Token.blank = (lexemes.map blank).flatMap tokens := by
  rw [List.map_flatMap, List.flatMap_map]
  exact List.flatMap_congr fun lexeme _ => (tokens_blank lexeme).symm

theorem legible_map_blank {lexemes : List Lexeme} : Legible (lexemes.map blank) ↔ Legible lexemes := by
  have hclean : ∀ lexeme : Lexeme, lexeme.blank.Clean ↔ lexeme.Clean := by
    intro lexeme
    cases lexeme <;> rfl
  have hquoted : ∀ lexeme : Lexeme, lexeme.blank.quoted? = none ↔ lexeme.quoted? = none := by
    intro lexeme
    cases lexeme <;> simp [blank, quoted?]
  constructor
  · rintro ⟨hclean', hapart⟩
    refine ⟨fun lexeme hmem => (hclean lexeme).1 (hclean' _ (List.mem_map_of_mem hmem)), ?_⟩
    rw [List.isChain_map] at hapart
    exact hapart.imp fun _ _ h => h.imp (hquoted _).1 (hquoted _).1
  · rintro ⟨hclean', hapart⟩
    refine ⟨List.forall_mem_map.2 fun lexeme hmem => (hclean lexeme).2 (hclean' lexeme hmem), ?_⟩
    rw [List.isChain_map]
    exact hapart.imp fun _ _ h => h.imp (hquoted _).2 (hquoted _).2

end Lexeme

end EntitySql
