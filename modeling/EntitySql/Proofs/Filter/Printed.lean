import EntitySql.Proofs.Filter.Parsed
import EntitySql.Proofs.Json.Distinct

/-!
# Filters as JSON

Filters are written in one form: their terms in order, then both groups, whether or not there is
anything in them. Reading has to tell predicates from a nested filter by the spelling of keys, and takes
an object without keys as no predicates; the keys of the groups keep a nested filter from being taken
for predicates.

* `Filter.print` writes a filter, `Filter.Canonical` says which filters this loses nothing of.
* `Filter.parse_print`: a canonical filter is read back as it is.
* `Filter.canonical_of_parse`: what is read from a value without a key twice is canonical.
* `Filter.parse_print_iff_canonical` puts both together.
-/

namespace EntitySql

set_option autoImplicit false

/-! ## Writing -/

/-- A placeholder is written as its number. -/
def Operand.print : Operand → Json
  | .value v => v
  | .list vs => .arr vs
  | .flag b => .bool b
  | .param index => .ofNat index
  | .params indices => .arr (indices.map .ofNat)

def Predicate.print (predicate : Predicate) : String × Json :=
  (predicate.operator.name, predicate.operand.print)

mutual

/-- Writes the terms of a filter in order, then its groups. -/
def Filter.print : Filter → Json
  | { terms, conjuncts, alternatives } => .obj (Term.printAll terms ++
    [("_and", .arr (Filter.printAll conjuncts)), ("_or", .arr (Filter.printAll alternatives))])
termination_by structural filter => filter

def Term.print : Term → String × Json
  | .predicates name predicates => (name, .obj (predicates.map Predicate.print))
  | .nested name filter => (name, filter.print)
termination_by structural term => term

def Term.printAll : List Term → List (String × Json)
  | [] => []
  | term :: rest => term.print :: Term.printAll rest
termination_by structural terms => terms

def Filter.printAll : List Filter → List Json
  | [] => []
  | filter :: rest => filter.print :: Filter.printAll rest
termination_by structural filters => filters

end

/-! ## Canonical filters -/

/-- The names of the terms are distinct, and none is that of a group. -/
def Term.NamesDistinct (terms : List Term) : Prop :=
  (terms.map Term.name).Nodup ∧ ∀ term ∈ terms, term.name ≠ "_and" ∧ term.name ≠ "_or"

mutual

/-- At every level the names of the terms are distinct and no names of groups, and predicates have
distinct operators with the operands that they take. -/
def Filter.Canonical : Filter → Prop
  | { terms, conjuncts, alternatives } => Term.NamesDistinct terms ∧ Term.AllCanonical terms ∧
    Filter.AllCanonical conjuncts ∧ Filter.AllCanonical alternatives
termination_by structural filter => filter

def Term.Canonical : Term → Prop
  | .predicates _ predicates =>
    (predicates.map Predicate.operator).Nodup ∧ ∀ predicate ∈ predicates, predicate.Given
  | .nested _ filter => filter.Canonical
termination_by structural term => term

def Term.AllCanonical : List Term → Prop
  | [] => True
  | term :: rest => term.Canonical ∧ Term.AllCanonical rest
termination_by structural terms => terms

def Filter.AllCanonical : List Filter → Prop
  | [] => True
  | filter :: rest => filter.Canonical ∧ Filter.AllCanonical rest
termination_by structural filters => filters

end

/-! ## Reading what is written -/

theorem Operator.isPredicateKey_name (op : Operator) : isPredicateKey op.name = true := by
  cases op <;> decide

theorem Operator.parse_name (op : Operator) : Operator.parse op.name = .ok op := by
  rw [parse, ofName?_name]

/-- An operand is read as it is written by the operator that takes it. -/
theorem Predicate.parse_print {predicate : Predicate} (h : predicate.Given) :
    parse predicate.print.1 predicate.print.2 = .ok predicate := by
  obtain ⟨op, operand⟩ := predicate
  obtain ⟨hsuits, hliteral⟩ := h
  rw [parse, print, Operator.parse_name]
  cases operand with
  | value value =>
    obtain ⟨hnull, hlist⟩ := hsuits
    cases op with
    | isNull => exact (hnull rfl).elim
    | oneOf | noneOf => cases hlist
    | _ => rfl
  | list values =>
    cases op with
    | oneOf | noneOf => rfl
    | _ => cases hsuits
  | flag flag =>
    cases op with
    | isNull => rfl
    | _ => cases hsuits
  | param index => exact hliteral.elim
  | params indices => exact hliteral.elim

theorem Term.print_fst (term : Term) : term.print.1 = term.name := by
  cases term <;> rfl

namespace Filter

/-- A nested filter is written with the keys of its groups, which are none of predicates. -/
theorem parseTerm_print_nested {name : String} {filter : Filter}
    (h : parse filter.print = .ok filter) : parseTerm name filter.print = .ok (.nested name filter) := by
  obtain ⟨terms, conjuncts, alternatives⟩ := filter
  rw [print] at h ⊢
  have hgroup : ("_and", Json.arr (printAll conjuncts)) ∈ Term.printAll terms ++
      [("_and", .arr (printAll conjuncts)), ("_or", .arr (printAll alternatives))] := by simp
  have hkey : isPredicateKey "_and" = false := by decide
  exact parseTerm_nested ⟨_, hgroup, hkey⟩ h

theorem parseTerm_print_predicates {name : String} {predicates : List Predicate}
    (h : ∀ predicate ∈ predicates, predicate.Given) :
    parseTerm name (.obj (predicates.map Predicate.print)) = .ok (.predicates name predicates) := by
  have hkeys : ∀ member ∈ predicates.map Predicate.print, isPredicateKey member.1 = true :=
    List.forall_mem_map.2 fun predicate _ => predicate.operator.isPredicateKey_name
  have hread : (predicates.map Predicate.print).mapM
      (fun member => Predicate.parse member.1 member.2) = .ok predicates := by
    rw [mapM_eq_ok, List.forall₂_map_left_iff, List.forall₂_same]
    exact fun predicate hmem => Predicate.parse_print (h predicate hmem)
  rw [parseTerm_predicates hkeys, hread]
  rfl

theorem parseMembers_groups {read : Filter} {items options : List Json}
    {conjuncts alternatives : List Filter} (hconjuncts : parseItems items = .ok conjuncts)
    (halternatives : parseItems options = .ok alternatives) :
    parseMembers read [("_and", .arr items), ("_or", .arr options)] =
      .ok { read with conjuncts, alternatives } := by
  have hand : parseMembers read [("_and", .arr items), ("_or", .arr options)] =
      parseMembers { read with conjuncts } [("_or", .arr options)] := by
    rw [parseMembers, if_pos rfl, parseGroup, hconjuncts]
    rfl
  rw [hand, parseMembers, if_neg (by decide), if_pos rfl, parseGroup, halternatives]
  rfl

mutual

theorem parse_print : (filter : Filter) → filter.Canonical → parse filter.print = .ok filter
  | { terms, conjuncts, alternatives }, h => by
    obtain ⟨hnames, hterms, hconjuncts, halternatives⟩ := h
    rw [print, parse, parseMembers_printAll terms hterms hnames.2]
    exact parseMembers_groups (parseItems_printAll conjuncts hconjuncts)
      (parseItems_printAll alternatives halternatives)

theorem parseTerm_print : (term : Term) → term.Canonical →
    parseTerm term.print.1 term.print.2 = .ok term
  | .predicates _ _, h => parseTerm_print_predicates h.2
  | .nested _ filter, h => parseTerm_print_nested (parse_print filter h)

/-- The terms are read after those read before, and what is written after them is read next. -/
theorem parseMembers_printAll : (terms : List Term) → Term.AllCanonical terms →
    (∀ term ∈ terms, term.name ≠ "_and" ∧ term.name ≠ "_or") → ∀ {read members},
      parseMembers read (Term.printAll terms ++ members) =
        parseMembers { read with terms := read.terms ++ terms } members
  | [], _, _, read, members => by
    rw [Term.printAll, List.nil_append, List.append_nil]
    cases read
    rfl
  | term :: rest, h, hnames, read, members => by
    obtain ⟨⟨hand, hor⟩, hrest⟩ := List.forall_mem_cons.1 hnames
    have hstep : parseMembers read (term.print :: (Term.printAll rest ++ members)) =
        parseMembers { read with terms := read.terms ++ [term] } (Term.printAll rest ++ members) := by
      rw [parseMembers, term.print_fst, if_neg hand, if_neg hor, ← term.print_fst,
        parseTerm_print term h.1]
      rfl
    rw [Term.printAll, List.cons_append, hstep, parseMembers_printAll rest h.2 hrest,
      List.append_assoc, List.singleton_append]

theorem parseItems_printAll : (filters : List Filter) → AllCanonical filters →
    parseItems (printAll filters) = .ok filters
  | [], _ => rfl
  | filter :: rest, h => by
    rw [printAll, parseItems, parse_print filter h.1, parseItems_printAll rest h.2]
    rfl

end

end Filter

/-! ## What is read -/

theorem Operator.name_injective : Function.Injective name := by
  intro op other h
  exact Option.some.inj (by rw [← ofName?_name, h, ofName?_name])

theorem Operator.name_of_ofName? {key : String} {op : Operator} (h : ofName? key = some op) :
    op.name = key := by
  unfold ofName? at h
  split at h
  all_goals first | (obtain rfl := Option.some.inj h; rfl) | cases h

theorem Operator.name_of_parse {key : String} {op : Operator} (h : Operator.parse key = .ok op) :
    op.name = key := by
  unfold Operator.parse at h
  split at h
  · next hname =>
    obtain rfl := Except.ok.inj h
    exact Operator.name_of_ofName? hname
  · cases h

namespace Predicate

/-- Predicates are written without a key twice if no operator is among them twice, and no key in an
operand. -/
theorem distinct_print_iff {predicates : List Predicate} :
    (Json.obj (predicates.map print)).Distinct ↔ (predicates.map operator).Nodup ∧
      ∀ predicate ∈ predicates, predicate.operand.print.Distinct := by
  have hkeys : Assoc.keys (predicates.map print) = (predicates.map operator).map Operator.name := by
    rw [Assoc.keys, List.map_map, List.map_map]
    rfl
  rw [Json.Distinct, hkeys, List.nodup_map_iff Operator.name_injective, Json.membersDistinct_iff,
    List.forall_mem_map]
  rfl

/-- A predicate is written as what it was read from. -/
theorem print_of_parse {key : String} {value : Json} {predicate : Predicate}
    (h : parse key value = .ok predicate) : predicate.print = (key, value) := by
  obtain ⟨hop, h⟩ := cases_of_parse h
  rw [print, Operator.name_of_parse hop]
  rcases h with ⟨-, items, rfl, hoperand⟩ | ⟨-, flag, rfl, hoperand⟩ | ⟨-, -, hoperand⟩
  · rw [hoperand, Operand.print]
  · rw [hoperand, Operand.print]
  · rw [hoperand, Operand.print]

theorem map_print_of_mapM {members : List (String × Json)} {predicates : List Predicate}
    (h : members.mapM (fun member => parse member.1 member.2) = .ok predicates) :
    predicates.map print = members := by
  rw [← List.forall₂_eq_eq_eq, List.forall₂_map_left_iff]
  exact (mapM_eq_ok.1 h).flip.imp fun _ _ hparse => print_of_parse hparse

end Predicate

namespace Term

theorem NamesDistinct.append {terms : List Term} (h : NamesDistinct terms) {term : Term}
    (hnew : ∀ earlier ∈ terms, earlier.name ≠ term.name)
    (hname : term.name ≠ "_and" ∧ term.name ≠ "_or") : NamesDistinct (terms ++ [term]) := by
  refine ⟨?_, List.forall_mem_append.2 ⟨h.2, List.forall_mem_singleton.2 hname⟩⟩
  rw [List.map_append, List.map_singleton, ← List.concat_eq_append]
  refine h.1.concat fun hmem => ?_
  obtain ⟨earlier, hearlier, heq⟩ := List.mem_map.1 hmem
  exact hnew earlier hearlier heq

theorem keys_printAll (terms : List Term) : Assoc.keys (printAll terms) = terms.map name := by
  induction terms with
  | nil => rfl
  | cons term rest ih =>
    rw [printAll, Assoc.keys, List.map_cons, List.map_cons, print_fst]
    exact congrArg _ ih

/-- Names of terms and of groups do not clash. -/
theorem NamesDistinct.nodup_keys {terms : List Term} (h : NamesDistinct terms) (conjuncts options : Json) :
    (Assoc.keys (printAll terms ++ [("_and", conjuncts), ("_or", options)])).Nodup := by
  have hgroups : ["_and", "_or"].Nodup := by decide
  rw [Assoc.keys, List.map_append, ← Assoc.keys, keys_printAll]
  refine List.nodup_append.2 ⟨h.1, hgroups, List.forall_mem_map.2 fun term hmem => ?_⟩
  exact List.forall_mem_cons.2 ⟨(h.2 term hmem).1, List.forall_mem_singleton.2 (h.2 term hmem).2⟩

theorem allCanonical_append {terms : List Term} (h : AllCanonical terms) {term : Term}
    (hterm : term.Canonical) : AllCanonical (terms ++ [term]) := by
  induction terms with
  | nil => exact ⟨hterm, trivial⟩
  | cons first rest ih => exact ⟨h.1, ih h.2⟩

end Term

namespace Filter

theorem parseTerm_name {key : String} {value : Json} {term : Term}
    (h : parseTerm key value = .ok term) : term.name = key := by
  cases value with
  | obj members =>
    rw [parseTerm] at h
    split at h
    · obtain ⟨predicates, -, h⟩ := bind_eq_ok.1 h
      obtain rfl := pure_eq_ok.1 h
      rfl
    · obtain ⟨filter, -, h⟩ := bind_eq_ok.1 h
      obtain rfl := pure_eq_ok.1 h
      rfl
  | _ => cases h

theorem canonical_empty : Canonical {} :=
  ⟨⟨List.nodup_nil, List.forall_mem_nil _⟩, trivial, trivial, trivial⟩

mutual

theorem canonical_of_parse : (value : Json) → value.Distinct → ∀ {filter : Filter},
    parse value = .ok filter → filter.Canonical
  | .obj members, hvalue, filter, h => by
    rw [parse] at h
    exact canonical_of_parseMembers members hvalue.1 hvalue.2 canonical_empty (List.forall_mem_nil _) h
  | .null, _, _, h => by cases h
  | .bool _, _, _, h => by cases h
  | .int _, _, _, h => by cases h
  | .double _, _, _, h => by cases h
  | .str _, _, _, h => by cases h
  | .arr _, _, _, h => by cases h

/-- A term that is read has the name of its key, which no other member has. -/
theorem canonical_of_parseMembers : (members : List (String × Json)) → (Assoc.keys members).Nodup →
    Json.MembersDistinct members → ∀ {read filter : Filter}, read.Canonical →
      (∀ term ∈ read.terms, term.name ∉ Assoc.keys members) → parseMembers read members = .ok filter →
        filter.Canonical
  | [], _, _, read, filter, hread, _, h => by
    rw [parseMembers] at h
    obtain rfl := Except.ok.inj h
    exact hread
  | (key, value) :: rest, hkeys, hvalues, read, filter, hread, hfresh, h => by
    obtain ⟨terms, conjuncts, alternatives⟩ := read
    obtain ⟨hnames, hterms, hconjuncts, halternatives⟩ := hread
    obtain ⟨hkey, hrest⟩ := List.nodup_cons.1 hkeys
    have hfreshRest : ∀ term ∈ terms, term.name ∉ Assoc.keys rest :=
      fun term hmem hin => hfresh term hmem (List.mem_cons_of_mem _ hin)
    rw [parseMembers] at h
    split at h
    · obtain ⟨group, hgroup, h⟩ := bind_eq_ok.1 h
      have hnext : Canonical { terms, conjuncts := group, alternatives } :=
        ⟨hnames, hterms, canonical_of_parseGroup value hvalues.1 hgroup, halternatives⟩
      exact canonical_of_parseMembers rest hrest hvalues.2 hnext hfreshRest h
    · next hand =>
      split at h
      · obtain ⟨group, hgroup, h⟩ := bind_eq_ok.1 h
        have hnext : Canonical { terms, conjuncts, alternatives := group } :=
          ⟨hnames, hterms, hconjuncts, canonical_of_parseGroup value hvalues.1 hgroup⟩
        exact canonical_of_parseMembers rest hrest hvalues.2 hnext hfreshRest h
      · next hor =>
        obtain ⟨term, hterm, hnextRead⟩ := bind_eq_ok.1 h
        obtain rfl := parseTerm_name hterm
        have hnew : ∀ earlier ∈ terms, earlier.name ≠ term.name := fun earlier hmem heq =>
          hfresh earlier hmem (heq ▸ List.mem_cons_self ..)
        have hnext : Canonical { terms := terms ++ [term], conjuncts, alternatives } :=
          ⟨hnames.append hnew ⟨hand, hor⟩, Term.allCanonical_append hterms
            (canonical_of_parseTerm value hvalues.1 hterm), hconjuncts, halternatives⟩
        refine canonical_of_parseMembers rest hrest hvalues.2 hnext ?_ hnextRead
        exact List.forall_mem_append.2 ⟨hfreshRest, List.forall_mem_singleton.2 hkey⟩

theorem canonical_of_parseGroup : (value : Json) → value.Distinct → ∀ {key : String}
    {filters : List Filter}, parseGroup key value = .ok filters → AllCanonical filters
  | .null, _, key, filters, h => by
    rw [parseGroup] at h
    obtain rfl := Except.ok.inj h
    trivial
  | .arr items, hvalue, key, filters, h => by
    rw [parseGroup] at h
    exact canonical_of_parseItems items hvalue h
  | .bool _, _, _, _, h => by cases h
  | .int _, _, _, _, h => by cases h
  | .double _, _, _, _, h => by cases h
  | .str _, _, _, _, h => by cases h
  | .obj _, _, _, _, h => by cases h

theorem canonical_of_parseItems : (items : List Json) → Json.AllDistinct items →
    ∀ {filters : List Filter}, parseItems items = .ok filters → AllCanonical filters
  | [], _, filters, h => by
    rw [parseItems] at h
    obtain rfl := pure_eq_ok.1 h
    trivial
  | item :: rest, hitems, filters, h => by
    rw [parseItems] at h
    obtain ⟨filter, hfilter, h⟩ := bind_eq_ok.1 h
    obtain ⟨others, hothers, h⟩ := bind_eq_ok.1 h
    obtain rfl := pure_eq_ok.1 h
    exact ⟨canonical_of_parse item hitems.1 hfilter, canonical_of_parseItems rest hitems.2 hothers⟩

theorem canonical_of_parseTerm : (value : Json) → value.Distinct → ∀ {key : String} {term : Term},
    parseTerm key value = .ok term → term.Canonical
  | .obj members, hvalue, key, term, h => by
    rw [parseTerm] at h
    split at h
    · obtain ⟨predicates, hpredicates, h⟩ := bind_eq_ok.1 h
      obtain rfl := pure_eq_ok.1 h
      rw [← Predicate.map_print_of_mapM hpredicates, Predicate.distinct_print_iff] at hvalue
      refine ⟨hvalue.1, fun predicate hmem => ?_⟩
      obtain ⟨member, -, hparse⟩ := exists_of_mem_right (mapM_eq_ok.1 hpredicates) hmem
      exact Predicate.given_of_parse hparse
    · obtain ⟨filter, hfilter, h⟩ := bind_eq_ok.1 h
      obtain rfl := pure_eq_ok.1 h
      exact canonical_of_parseMembers members hvalue.1 hvalue.2 canonical_empty
        (List.forall_mem_nil _) hfilter
  | .null, _, _, _, h => by cases h
  | .bool _, _, _, _, h => by cases h
  | .int _, _, _, _, h => by cases h
  | .double _, _, _, _, h => by cases h
  | .str _, _, _, _, h => by cases h
  | .arr _, _, _, _, h => by cases h

end

/-! ## What is written -/

mutual

/-- A canonical filter is written without a key twice, unless there is one in its operands. -/
theorem distinct_print : (filter : Filter) → filter.Canonical →
    (∀ operand ∈ filter.operands, operand.print.Distinct) → filter.print.Distinct
  | { terms, conjuncts, alternatives }, h, hoperands => by
    obtain ⟨hnames, hterms, hconjuncts, halternatives⟩ := h
    rw [operands, List.forall_mem_append, List.forall_mem_append] at hoperands
    obtain ⟨⟨hoperandsOfTerms, hoperandsOfConjuncts⟩, hoperandsOfOptions⟩ := hoperands
    rw [print, Json.Distinct, Json.membersDistinct_append]
    exact ⟨hnames.nodup_keys _ _, distinct_printAllTerms terms hterms hoperandsOfTerms,
      distinct_printAll conjuncts hconjuncts hoperandsOfConjuncts,
      distinct_printAll alternatives halternatives hoperandsOfOptions, trivial⟩

theorem distinct_printTerm : (term : Term) → term.Canonical →
    (∀ operand ∈ term.operands, operand.print.Distinct) → term.print.2.Distinct
  | .predicates _ _, h, hoperands =>
    Predicate.distinct_print_iff.2
      ⟨h.1, fun predicate hmem => hoperands predicate.operand (List.mem_map_of_mem hmem)⟩
  | .nested _ filter, h, hoperands => distinct_print filter h hoperands

theorem distinct_printAllTerms : (terms : List Term) → Term.AllCanonical terms →
    (∀ operand ∈ Term.operandsAll terms, operand.print.Distinct) →
      Json.MembersDistinct (Term.printAll terms)
  | [], _, _ => trivial
  | term :: rest, h, hoperands => by
    obtain ⟨hfirst, hrest⟩ := List.forall_mem_append.1 hoperands
    exact ⟨distinct_printTerm term h.1 hfirst, distinct_printAllTerms rest h.2 hrest⟩

theorem distinct_printAll : (filters : List Filter) → AllCanonical filters →
    (∀ operand ∈ operandsAll filters, operand.print.Distinct) → Json.AllDistinct (printAll filters)
  | [], _, _ => trivial
  | filter :: rest, h, hoperands => by
    obtain ⟨hfirst, hrest⟩ := List.forall_mem_append.1 hoperands
    exact ⟨distinct_print filter h.1 hfirst, distinct_printAll rest h.2 hrest⟩

end

/-- A canonical filter is read back from what it is written as. Whatever is read from a value without a
key twice is canonical, so that it reads the same as what it is written as; and every canonical filter
is read from such a value, if its operands are such values. -/
theorem parse_print_iff_canonical (filter : Filter) :
    (filter.Canonical → parse filter.print = .ok filter) ∧
    (∀ value : Json, value.Distinct → parse value = .ok filter →
      filter.Canonical ∧ parse filter.print = parse value) ∧
    ((∀ operand ∈ filter.operands, operand.print.Distinct) →
      ((∃ value : Json, value.Distinct ∧ parse value = .ok filter) ↔ filter.Canonical)) := by
  have hread : ∀ value : Json, value.Distinct → parse value = .ok filter → filter.Canonical :=
    fun value hvalue hparse => canonical_of_parse value hvalue hparse
  refine ⟨parse_print filter, fun value hvalue hparse => ?_, fun hoperands => ⟨?_, fun h => ?_⟩⟩
  · have hcanonical := hread value hvalue hparse
    exact ⟨hcanonical, (parse_print filter hcanonical).trans hparse.symm⟩
  · rintro ⟨value, hvalue, hparse⟩
    exact hread value hvalue hparse
  · exact ⟨filter.print, distinct_print filter h hoperands, parse_print filter h⟩

end Filter

/-! ## The library -/

/-- Books, with terms whose names or keys start like those of operators and groups that are empty. -/
def Library.underscored : Json :=
  .obj [("_or", .null), ("_rank", .obj []),
    ("writer", .obj [("_rank", .obj [("_in", .arr [.int 1])]), ("_and", .arr [.obj []])])]

theorem Filter.parse_print_underscored : ∃ filter, parse Library.underscored = .ok filter ∧
    filter.Canonical ∧ filter.print ≠ Library.underscored ∧ parse filter.print = .ok filter := by
  obtain ⟨filter, hfilter⟩ : ∃ filter, parse Library.underscored = .ok filter := ⟨_, rfl⟩
  obtain ⟨-, hread, -⟩ := parse_print_iff_canonical filter
  have hdistinct : Library.underscored.Distinct := by
    simp [Library.underscored, Json.Distinct, Json.MembersDistinct, Json.AllDistinct, Assoc.keys]
  obtain ⟨hcanonical, hagain⟩ := hread _ hdistinct hfilter
  refine ⟨filter, hfilter, hcanonical, ?_, hagain.trans hfilter⟩
  obtain rfl := Except.ok.inj hfilter
  decide

end EntitySql
