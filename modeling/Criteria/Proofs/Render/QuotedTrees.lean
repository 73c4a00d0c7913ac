import Criteria.Proofs.Faults
import Criteria.Proofs.Render.Body
import Criteria.Proofs.Render.DumpText
import Criteria.Proofs.Render.Quotes
import Criteria.Proofs.Render.Splice

/-!
# Texts in quotes in source and in dumps

In source, the texts of a tree stand in quotes: its sets, its starts of strings, the names of properties
that cannot follow a dot, and the texts of its values. Functions, which are shown by a text of their own,
and patterns stand there as they are. A dump has only the texts of values in these quotes. As long as what
stands there as it is has no quotation mark, the texts in quotes are exactly those of the tree.

* `Predicate.quoted`, `Predicate.sourceTexts` — the texts that the source has in quotes and without.
* `Predicate.dumpQuoted`, `Predicate.dumpTexts` — the same for the dump.

Principal results:

* `Predicate.quoting_body`, `quoting_spliceOrCall` — the texts in quotes in a body and in a filter.
* `Predicate.quoting_detail` — the texts in quotes in a dump.
* `quoted_texts_read_back` — what stands between quotes, and that no text gets out of them.
-/

set_option autoImplicit false

namespace Criteria

open Grammar Render ParamNames

variable {α : Type} {s : Store} {ts us names : List String}

/-! ## The texts of a tree -/

section Gather

variable (own : Predicate → List α) (ofValue : Value → List α)

mutual

/-- What the operand has, from left to right, if a node has `own` before its operands and filter. -/
def Operand.gather : Operand → List α
  | .unset => []
  | .nested p => p.gather
  | .literal v => ofValue v

/-- What the tree has. -/
def Predicate.gather : Predicate → List α
  | .unary op x => own (.unary op x) ++ x.gather
  | .binary op left right => own (.binary op left right) ++ (left.gather ++ right.gather)
  | .boolean op xs => own (.boolean op xs) ++ Operand.gatherAll xs
  | .property name (some x) => own (.property name (some x)) ++ x.gather
  | .shift count x => own (.shift count x) ++ x.gather
  | p => own p

/-- What some operands have. -/
def Operand.gatherAll : List Operand → List α
  | [] => []
  | x :: rest => x.gather ++ Operand.gatherAll rest

end

end Gather

/-- The texts of a value that its literal has in quotes. -/
def Store.quoted (s : Store) (v : Value) : List String := (s.datum v).quoted

/-- The texts of the functions in a value. -/
def Store.functionTexts (s : Store) (v : Value) : List String := (s.datum v).functionTexts

namespace Predicate

/-- The texts that a node has in source as they are: functions and patterns. -/
def ownSourceTexts (s : Store) : Predicate → List String
  | .regex _ source _ => [escapeRegex source]
  | .compare _ v => s.functionTexts v
  | .member v => s.functionTexts v
  | .function f receiver _ => Datum.functionLiteral f :: s.functionTexts receiver
  | _ => []

/-- The texts that source has as they are: the functions and the patterns of a tree. -/
def sourceTexts (s : Store) (p : Predicate) : List String :=
  p.gather (ownSourceTexts s) s.functionTexts

/-- The texts that a node has in a dump as they are, or in other quotes. -/
def ownDumpTexts (s : Store) : Predicate → List String
  | .charset _ set => [Dump.setDetail set.toList]
  | .string start => [Dump.bytesQuoted start]
  | .regex _ source _ => [source]
  | .compare .instanceOf (.function f) => [f.name]
  | .compare _ v => s.functionTexts v
  | .property name _ => [accessText name]
  | .member v => s.functionTexts v
  | _ => []

/-- The texts that a dump has as they are, or in other quotes: beside functions and patterns the sets,
the starts of strings and the names of properties. -/
def dumpTexts (s : Store) (p : Predicate) : List String := p.gather (ownDumpTexts s) s.functionTexts

/-- The texts that a node has in quotes in a dump. -/
def ownDumpQuoted (s : Store) : Predicate → List String
  | .compare _ v => s.quoted v
  | .member v => s.quoted v
  | _ => []

/-- The texts that a dump has in quotes, from left to right. -/
def dumpQuoted (s : Store) (p : Predicate) : List String := p.gather (ownDumpQuoted s) s.quoted

end Predicate

/-! ## Values and names -/

theorem Store.quoting_literal {v : Value} (h : QuoteFree (s.functionTexts v)) :
    Quoting (s.literal v) (s.quoted v) := Datum.quoting_literal h

theorem Store.quoted_undefined : s.quoted .undefined = [] := by
  rw [quoted, datum, unfold]
  rfl

theorem Store.quoted_function (f : Function) : s.quoted (.function f) = [] := by
  rw [quoted, datum, unfold]
  rfl

/-- The text of a function is that of the value. -/
theorem Store.notMem_functionLiteral {f : Function} (h : QuoteFree (s.functionTexts (.function f))) :
    '"' ∉ (Datum.functionLiteral f).toList := by
  have htexts : s.functionTexts (.function f) = [Datum.functionLiteral f] := by
    rw [functionTexts, datum, unfold]
    rfl
  rw [htexts] at h
  exact h.cons.1

/-- A function is called by the text that it is shown by, in brackets or not. -/
theorem quoting_callee {f : Function} (h : '"' ∉ (Datum.functionLiteral f).toList) :
    Quoting (callee f) [] := by
  unfold callee
  rw [Datum.functionLiteral] at h
  split
  · rename_i source hsource
    rw [hsource] at h
    exact (quoting_plain h).between (by decide) (by decide)
  · rename_i hsource
    rw [hsource] at h
    exact quoting_plain h

theorem notMem_of_isDotName {word : String} (h : isDotName word) : '"' ∉ word.toList := by
  obtain ⟨c, rest, hword, -, hall⟩ := exists_cons_of_isDotName h
  rw [hword]
  intro hmem
  exact absurd (hall _ hmem) (by decide)

theorem quoteFree_letterNames (count : Nat) : QuoteFree (letterNames count) := by
  intro name hname
  have hword := isName_of_mem_letterNames hname
  rw [isName, Bool.and_eq_true] at hword
  exact notMem_of_isDotName hword.1

/-! ## Source -/

namespace Render

/-- The texts that a property access has in quotes. -/
def accessQuoted : Option String → List String
  | none => []
  | some name => if isDotName name then [] else [name]

/-- The texts in quotes where a filter is applied to an access: those of the access come first if the
filter is spliced onto it, and last if it is called. -/
def appliedQuoted (source : String) (ofFilter ofAccess : List String) : List String :=
  if (stripHeader? source).isSome then ofAccess ++ ofFilter else ofFilter ++ ofAccess

end Render

mutual

/-- The texts that the source of an operand has in quotes. -/
def Operand.quoted (s : Store) : Operand → List String
  | .unset => []
  | .nested p => p.quoted s
  | .literal v => s.quoted v

/-- The texts that the source of a tree has in quotes, from left to right. -/
def Predicate.quoted (s : Store) : Predicate → List String
  | .type mask => mask.names
  | .charset _ set => [set]
  | .string start => [String.ofList (Text.Utf8.decodeLossy start)]
  | .unary _ x => x.quoted s
  | .binary _ left right => left.quoted s ++ right.quoted s
  | .boolean _ xs => (Operand.eachQuoted s xs).flatten
  | .compare _ v => s.quoted v
  | .property name (some (.nested p)) => appliedQuoted (p.arrow s).text (p.quoted s) (accessQuoted name)
  | .property name _ => accessQuoted name
  | .member v => s.quoted v
  | .shift _ x => x.quoted s
  | .function _ receiver _ => s.quoted receiver
  | _ => []

/-- The texts that the sources of some operands have in quotes. -/
def Operand.eachQuoted (s : Store) : List Operand → List (List String)
  | [] => []
  | x :: rest => x.quoted s :: Operand.eachQuoted s rest

end

section Pieces

variable {text access source : String}

theorem quoting_wrapped (h : Quoting text ts) (operator : Precedence) (x : Operand)
    (position : Position) : Quoting (wrapped operator x position text) ts := by
  unfold wrapped
  split
  · exact h.between (by decide) (by decide)
  · exact h

theorem quoting_accessText (hnames : QuoteFree names) (name : Option String) :
    Quoting (Render.accessText name names) (accessQuoted name) := by
  have hobject := quoting_plain hnames.headD
  cases name with
  | none =>
    exact ((hobject.append_plain (by decide)).append_plain (hnames.drop 1).headD).append_plain
      (by decide)
  | some name =>
    rw [Render.accessText, memberAccess, accessQuoted]
    split
    · rename_i hname
      exact (hobject.append_plain (by decide)).append_plain (notMem_of_isDotName hname)
    · exact ((hobject.append_plain (by decide)).append (quoting_quote name)).append_plain (by decide)

/-- The start of a filter that is left out where it is spliced has no quotation mark. -/
theorem Grammar.Quoting.stripHeader {tail : String} (h : Quoting source ts)
    (htail : stripHeader? source = some tail) : Quoting tail ts := by
  obtain ⟨x, hx⟩ := stripHeader?_eq_some_iff.1 htail
  obtain ⟨before, param, between, inner, hbefore, hparam, hbetween, hinner, hsource⟩ := hx.source_eq
  have hblank : ∀ {cs : List Char}, IsBlank cs → '"' ∉ cs := fun hcs hmem =>
    absurd (hcs _ hmem) (by decide)
  have hword := notMem_of_isDotName hx.isDotName
  have hparam : '"' ∉ param := by
    cases hparam with
    | bare => exact hword
    | parens hl hr => simp [hblank hl, hword, hblank hr]
  have hheader :
      '"' ∉ before ++ (param ++ (between ++ '=' :: '>' :: (inner ++ x.toList))) := by
    simp [hblank hbefore, hparam, hblank hbetween, hblank hinner, hword]
  refine h.of_append hheader ?_
  rw [hsource]
  simp

theorem quoting_spliceOrCall (hsource : Quoting source ts) (haccess : Quoting access us) :
    Quoting (spliceOrCall source access) (appliedQuoted source ts us) := by
  unfold spliceOrCall appliedQuoted
  split
  · rename_i tail htail
    rw [htail]
    exact haccess.append (hsource.stripHeader htail)
  · rename_i hnone
    rw [hnone]
    exact ((hsource.between (by decide) (by decide)).append haccess).append_plain (by decide)

theorem quoting_appliedFunction {f : Function} (hf : '"' ∉ (Datum.functionLiteral f).toList)
    (haccess : Quoting access us) : Quoting (appliedFunction f access) us := by
  have hcallee := quoting_callee hf
  rw [Datum.functionLiteral] at hf
  unfold appliedFunction
  split
  · rename_i source hsource
    rw [hsource] at hf
    have happlied := quoting_spliceOrCall (quoting_plain hf) haccess
    have hall : appliedQuoted source [] us = us := by
      rw [appliedQuoted, List.append_nil, List.nil_append, ite_self]
    rwa [hall] at happlied
  · exact ((hcallee.append_plain (by decide)).append haccess).append_plain (by decide)

theorem quoting_typeTests {arg : String} (harg : '"' ∉ arg.toList) (mask : TypeMask) :
    Quoting (typeTests arg mask) mask.names := by
  unfold typeTests
  split
  · rename_i hnone
    rw [hnone]
    exact quoting_plain (by decide)
  · have htests : List.Forall₂ Quoting
        (mask.names.map fun n => "typeof " ++ arg ++ " == " ++ Text.quote n)
        (mask.names.map fun n => [n]) := by
      rw [List.forall₂_map_left_iff, List.forall₂_map_right_iff, List.forall₂_same]
      intro n _
      exact (((quoting_plain (by decide)).append_plain harg).append_plain (by decide)).append
        (quoting_quote n)
    have hbars : '"' ∉ " || ".toList := by decide
    have hall := Quoting.intercalate hbars htests
    rwa [← List.flatMap_def, List.flatMap_singleton'] at hall

theorem quoting_comparison {arg : String} (harg : '"' ∉ arg.toList) {v : Value}
    (hv : QuoteFree (s.functionTexts v)) (op : CompareOp) :
    Quoting (comparison s op arg v) (s.quoted v) := by
  have hliteral := Store.quoting_literal hv
  cases op with
  | equal => exact ((quoting_plain harg).append_plain (by decide)).append hliteral
  | instanceOf =>
    have hbefore : Quoting (arg ++ " instanceof ") [] :=
      (quoting_plain harg).append_plain (by decide)
    cases v with
    | function f =>
      rw [Store.quoted_function]
      exact hbefore.append (quoting_callee (Store.notMem_functionLiteral hv))
    | _ => exact hbefore.append hliteral
  | prototypeIs => exact (((quoting_plain (by decide)).append_plain harg).append_plain
      (by decide)).append hliteral

theorem quoting_functionCall {f : Function} (hf : '"' ∉ (Datum.functionLiteral f).toList)
    {receiver : Value} (hreceiver : QuoteFree (s.functionTexts receiver)) (hnames : QuoteFree names) :
    Quoting (functionCall s f receiver names) (s.quoted receiver) := by
  have hcallee := quoting_callee hf
  rw [functionCall]
  split
  · rename_i hundefined
    cases receiver with
    | undefined =>
      rw [Store.quoted_undefined]
      exact ((hcallee.append_plain (by decide)).append
        (hnames.intercalate (by decide))).append_plain (by decide)
    | _ => cases hundefined
  · have hcomma : '"' ∉ ", ".toList := by decide
    have hargs := Quoting.intercalate hcomma
      (.cons (Store.quoting_literal hreceiver) hnames.quoting)
    have hflat : (s.quoted receiver :: names.map fun _ => []).flatten = s.quoted receiver := by simp
    rw [hflat] at hargs
    exact ((hcallee.append_plain (by decide)).append hargs).append_plain (by decide)

theorem quoting_indexed {v : Value} (hv : QuoteFree (s.functionTexts v)) {key : String}
    (hkey : '"' ∉ key.toList) : Quoting (indexed s v key) (s.quoted v) := by
  have hliteral := Store.quoting_literal hv
  unfold indexed
  split
  · exact ((hliteral.between (by decide) (by decide)).append_plain hkey).append_plain (by decide)
  · exact ((hliteral.append_plain (by decide)).append_plain hkey).append_plain (by decide)

/-- A body with operators in brackets behind its parameters. -/
theorem quoting_sourceText {params : List String} {body : String} {precedence : Precedence}
    (hparams : QuoteFree params) (hbody : Quoting body ts) :
    Quoting (Source.text ⟨params, body, precedence⟩) ts := by
  have hheader : Quoting ("(" ++ String.intercalate ", " params ++ ") => ") [] :=
    (hparams.intercalate (by decide)).between (by decide) (by decide)
  rw [Source.text]
  refine hheader.append ?_
  split
  · exact hbody.between (by decide) (by decide)
  · exact hbody

end Pieces

theorem UnaryOp.notMem_symbol (op : UnaryOp) : '"' ∉ op.symbol.toList := by
  cases op <;> decide

theorem BinaryOp.notMem_symbol (op : BinaryOp) : '"' ∉ op.symbol.toList := by
  cases op <;> decide

theorem notMem_letters (flags : Regex.Flags) : '"' ∉ flags.letters.toList := by
  rw [Regex.Flags.letters, String.toList_ofList, List.mem_map]
  rintro ⟨flag, -, hflag⟩
  cases flag <;> cases hflag

mutual

theorem Operand.quoting_body : ∀ (x : Operand) {names : List String}, QuoteFree names →
    QuoteFree (x.gather (Predicate.ownSourceTexts s) s.functionTexts) →
      Quoting (x.body s names) (x.quoted s)
  | .unset, _, hnames, _ => quoting_plain hnames.headD
  | .nested p, _, hnames, h => Predicate.quoting_body p hnames h
  | .literal v, _, _, h => by
    cases v with
    | function f =>
      rw [Operand.quoted, Store.quoted_function]
      exact (quoting_callee (Store.notMem_functionLiteral h)).append_plain (by decide)
    | _ => exact Store.quoting_literal h

/-- The texts in quotes in the body of a tree are the texts of the tree. -/
theorem Predicate.quoting_body : ∀ (p : Predicate) {names : List String}, QuoteFree names →
    QuoteFree (p.sourceTexts s) → Quoting (p.body s names) (p.quoted s)
  | .unset, _, _, _ => by
    rw [Predicate.body]
    exact quoting_plain (by decide)
  | .type mask, _, hnames, _ => quoting_typeTests hnames.headD mask
  | .charset _ set, names, hnames, _ => by
    have hbefore : Quoting ("[..." ++ names.headD "" ++ "].every((ch) => ") [] :=
      (quoting_plain hnames.headD).between (by decide) (by decide)
    exact (hbefore.append (quoting_quote set)).append_plain (by decide)
  | .string start, names, hnames, _ => by
    have hbefore : Quoting (names.headD "" ++ ".startsWith(") [] :=
      (quoting_plain hnames.headD).append_plain (by decide)
    exact (hbefore.append (quoting_quote _)).append_plain (by decide)
  | .unary op x, _, hnames, h => by
    have hx := Operand.quoting_body x hnames h
    cases op with
    | sqrt => exact hx.between (by decide) (by decide)
    | _ => exact .plain_append (UnaryOp.notMem_symbol _) (quoting_wrapped hx _ _ _)
  | .binary op left right, _, hnames, h => by
    obtain ⟨hleft, hright⟩ := (QuoteFree.append h).2.append
    have hl := Operand.quoting_body left hnames hleft
    have hr := Operand.quoting_body right (hnames.drop left.slots) hright
    cases op with
    | atan2 =>
      exact ((hl.between (by decide) (by decide)).append hr).append_plain (by decide)
    | _ =>
      exact ((((quoting_wrapped hl _ left .left).append_plain (by decide)).append_plain
        (BinaryOp.notMem_symbol _)).append_plain (by decide)).append
          (quoting_wrapped hr _ right .right)
  | .boolean op [], _, _, _ => by
    have hempty : '"' ∉ (emptyChain op).toList := by cases op <;> decide
    exact quoting_plain hempty
  | .boolean op (x :: xs), _, hnames, h => by
    have hsymbol : '"' ∉ (" " ++ op.symbol ++ " ").toList := by cases op <;> decide
    exact Quoting.intercalate hsymbol (Operand.quoting_bodies op.precedence (x :: xs) hnames h)
  | .regex _ source flags, _, hnames, h => by
    have hpattern : Quoting ("/" ++ escapeRegex source ++ "/" ++ flags.letters) [] :=
      ((quoting_plain (QuoteFree.cons h).1).between (by decide) (by decide)).append_plain
        (notMem_letters flags)
    exact ((hpattern.append_plain (by decide)).append_plain hnames.headD).append_plain (by decide)
  | .compare op _, _, hnames, h => quoting_comparison hnames.headD h op
  | .property name none, _, hnames, _ | .property name (some .unset), _, hnames, _ =>
    quoting_accessText hnames name
  | .property name (some (.nested p)), _, hnames, h => by
    -- the filter has names of its own
    have hletters := quoteFree_letterNames p.slots
    have hfilter := Predicate.quoting_body p hletters h
    exact quoting_spliceOrCall (quoting_sourceText hletters hfilter) (quoting_accessText hnames name)
  | .property name (some (.literal v)), _, hnames, h => by
    have haccess := quoting_accessText hnames name
    cases v with
    | function f => exact quoting_appliedFunction (Store.notMem_functionLiteral h) haccess
    | _ => exact haccess
  | .member _, _, hnames, h => quoting_indexed h hnames.headD
  | .shift count x, _, hnames, h => Operand.quoting_body x (hnames.drop count) h
  | .function _ _ arity, _, hnames, h =>
    quoting_functionCall (QuoteFree.cons h).1 (QuoteFree.cons h).2 (hnames.take arity)

theorem Operand.quoting_bodies (operator : Precedence) : ∀ (xs : List Operand)
    {names : List String}, QuoteFree names →
    QuoteFree (Operand.gatherAll (Predicate.ownSourceTexts s) s.functionTexts xs) →
      List.Forall₂ Quoting (Operand.bodies s operator xs names) (Operand.eachQuoted s xs)
  | [], _, _, _ => .nil
  | x :: rest, _, hnames, h =>
    .cons (quoting_wrapped (Operand.quoting_body x hnames h.append.1) operator x .chain)
      (Operand.quoting_bodies operator rest (hnames.drop x.slots) h.append.2)

end

/-- The texts in quotes in the source of a tree are the texts of the tree. -/
theorem Predicate.quoting_toSource {p : Predicate} {src : Source} (h : p.toSource s = .ok src)
    (hp : QuoteFree (p.sourceTexts s)) : Quoting src.text (p.quoted s) := by
  have hcomplete : p.isComplete := by
    have hrenders := renders_toSource s p
    rwa [h] at hrenders
  have hletters := quoteFree_letterNames p.slots
  rw [toSource_eq_arrow hcomplete h]
  exact quoting_sourceText hletters (quoting_body p hletters hp)

/-- So are those in the source on a given list, as long as its names have no quotation mark. -/
theorem Predicate.quoting_toSourceOn {p : Predicate} {ns ns' : ParamNames} {src : Source}
    (hns : ns.Valid) (h : (p.toSourceOn s).run ns = .ok src ns') (hparams : QuoteFree src.params)
    (hp : QuoteFree (p.sourceTexts s)) : Quoting src.text (p.quoted s) := by
  have hbody := quoting_body p hparams hp
  rw [← toSourceOn_body ((writes_toSourceOn s p).ok h) hns h] at hbody
  exact quoting_sourceText hparams hbody

/-! ## Dumps -/

theorem quoting_node {detail : String} (h : Quoting detail ts) (kind : Kind) :
    Quoting (Dump.node kind detail) ts := by
  have hkind : '"' ∉ kind.name.toList := by cases kind <;> decide
  have hbefore : Quoting ("Predicate." ++ kind.name ++ "(") [] :=
    (quoting_plain hkind).between (by decide) (by decide)
  exact (hbefore.append h).append_plain (by decide)

theorem quoting_label (mask : TypeMask) : Quoting mask.label [] := by
  unfold TypeMask.label
  split
  · exact quoting_plain (by decide)
  · have hlabels : QuoteFree (mask.categories.map TypeCategory.label) := by
      refine List.forall_mem_map.2 fun category _ => ?_
      cases category <;> decide
    exact hlabels.intercalate (by decide)

theorem Operand.flatMap_gather (own : Predicate → List α) (ofValue : Value → List α)
    (xs : List Operand) : xs.flatMap (Operand.gather own ofValue) = gatherAll own ofValue xs := by
  induction xs with
  | nil => rfl
  | cons x rest ih => rw [List.flatMap_cons, ih, gatherAll]

theorem quoting_stored {op : CompareOp} {v : Value}
    (h : QuoteFree (Predicate.ownDumpTexts s (.compare op v))) :
    Quoting (Dump.stored s op v) (s.quoted v) := by
  unfold Dump.stored
  split
  · rw [Store.quoted_function]
    exact quoting_plain h.cons.1
  · rename_i hother
    rw [Predicate.ownDumpTexts] at h
    · exact Store.quoting_literal h
    · exact hother

mutual

theorem Operand.quoting_dumpText : ∀ x : Operand,
    QuoteFree (x.gather (Predicate.ownDumpTexts s) s.functionTexts) →
      Quoting (x.dumpText s) (x.gather (Predicate.ownDumpQuoted s) s.quoted)
  | .unset, _ => by
    rw [Operand.dumpText]
    exact quoting_plain (by decide)
  | .nested p, h => by
    have hdetail := Predicate.quoting_detail p h
    rw [Operand.dumpText]
    cases p with
    | unset =>
      have hempty : Quoting "" [] := quoting_plain (by decide)
      exact hempty
    | _ => exact quoting_node hdetail _
  | .literal _, h => Store.quoting_literal h

/-- The texts in quotes between the brackets of a node. -/
theorem Predicate.quoting_detail : ∀ p : Predicate, QuoteFree (p.dumpTexts s) →
    Quoting (p.detail s) (p.dumpQuoted s)
  | .unset, _ => by
    rw [Predicate.detail]
    exact quoting_plain (by decide)
  | .type mask, _ => .plain_append (by decide) (quoting_label mask)
  | .charset .., h | .string _, h | .property _ none, h => quoting_plain (QuoteFree.cons h).1
  | .unary op x, h => by
    have hopening : '"' ∉ (Dump.unaryOpening op).toList := by cases op <;> decide
    exact (Operand.quoting_dumpText x h).between hopening (by decide)
  | .binary op left right, h => by
    obtain ⟨hleft, hright⟩ := (QuoteFree.append h).2.append
    have hl := Operand.quoting_dumpText left hleft
    have hr := Operand.quoting_dumpText right hright
    exact ((((hl.between (by decide) (by decide)).append_plain
      op.notMem_symbol).append_plain (by decide)).append hr).append_plain (by decide)
  | .boolean _ xs, h => by
    have hcomma : '"' ∉ ", ".toList := by decide
    have hall := Quoting.intercalate hcomma (Operand.quoting_dumpTexts xs h)
    rwa [← List.flatMap_def, Operand.flatMap_gather] at hall
  | .regex _ source flags, h =>
    ((quoting_plain (QuoteFree.cons h).1).between (by decide) (by decide)).append_plain
      (notMem_letters flags)
  | .compare op v, h => quoting_stored h
  | .property name (some x), h =>
    .plain_append (QuoteFree.cons h).1
      (.plain_append (by decide) (Operand.quoting_dumpText x (QuoteFree.cons h).2))
  | .member _, h => Store.quoting_literal h
  | .shift count x, h => by
    have hbefore : Quoting (">> " ++ toString count ++ " ") [] :=
      (quoting_plain (Datum.notMem_toString count)).between (by decide) (by decide)
    exact hbefore.append (Operand.quoting_dumpText x h)
  | .function _ _ arity, _ =>
    (quoting_plain (Datum.notMem_toString arity)).between (by decide) (by decide)

theorem Operand.quoting_dumpTexts : ∀ xs : List Operand,
    QuoteFree (Operand.gatherAll (Predicate.ownDumpTexts s) s.functionTexts xs) →
      List.Forall₂ Quoting (Operand.dumpTexts s xs)
        (xs.map fun x => x.gather (Predicate.ownDumpQuoted s) s.quoted)
  | [], _ => .nil
  | x :: rest, h =>
    .cons (Operand.quoting_dumpText x h.append.1) (Operand.quoting_dumpTexts rest h.append.2)

end

/-- The texts in quotes in the dump of a tree are texts of its values. -/
theorem Predicate.quoting_dump {L : Labels} {w w' : World} {p : Predicate} {text : String}
    (hw : L.Holds w.caches) (hp : L.Fits p.nodes) (h : p.dump.run w = .ok text w')
    (htexts : QuoteFree (p.dumpTexts w.store)) : Quoting text (p.dumpQuoted w.store) := by
  have hcomplete : p.isComplete := by
    by_contra hincomplete
    obtain ⟨v, hrun⟩ := by simpa [hincomplete] using dumpsIf_dump p w
    rw [hrun] at h
    cases h
  obtain ⟨v, hrun, -, -⟩ := gives_dump p hp hcomplete w hw
  rw [hrun] at h
  cases h
  exact Operand.quoting_dumpText (.nested p) htexts

/-- **Quoted texts are read back.**

* A quoted text stands between two quotation marks, each of its characters as a spelling of this
  character. So a quotation mark or a backslash between the two belongs to an escape, and there is no
  control character. What stands between them can be taken apart into spellings in no other way, and is
  read as the text.
* Different texts are quoted differently, and none of them is quoted as the start of another.
* Whatever stands behind a quoted text, it is read as one token and one lexeme, and what stands behind it
  as if it stood alone.
* The texts in quotes in the literal of a value are the texts of the value at every depth, those in source
  and in a dump are the texts of the tree. None of them gets out of its quotes: whatever stands behind the
  literal, the source or the dump is outside of quotes. For this what stands there as it is must have no
  quotation mark. -/
theorem quoted_texts_read_back :
    (∀ s : String, ∃ parts : List (List Char),
      (Text.quote s).toList = '"' :: (parts.flatten ++ ['"']) ∧
      List.Forall₂ Text.Spells parts s.toList ∧
      (∀ c ∈ parts.flatten, Text.isControl c = false) ∧
      (∀ (others : List (List Char)) (cs : List Char),
        List.Forall₂ Text.Spells others cs ∧ others.flatten = parts.flatten ↔
          others = parts ∧ cs = s.toList) ∧
      Text.unquoteBody? parts.flatten = some s.toList) ∧
    (Function.Injective Text.quote ∧ ∀ (s t : String) (k k' : List Char),
      (Text.quote s).toList ++ k = (Text.quote t).toList ++ k' ↔ s = t ∧ k = k') ∧
    (∀ (s : String) (k : List Char),
      Token.read ((Text.quote s).toList ++ k) = some (.text s, k) ∧
      ∀ ls, Lexes ((Text.quote s).toList ++ k) ls ↔
        ∃ ms, ls = .leaf (.quoted (Text.quoteBody s.toList)) :: ms ∧ Lexes k ms) ∧
    (∀ d : Datum, QuoteFree d.functionTexts → Quoting d.literal d.quoted) ∧
    (∀ (s : Store) (p : Predicate), QuoteFree (p.sourceTexts s) →
      (∀ src, p.toSource s = .ok src → Quoting src.text (p.quoted s)) ∧
      ∀ ns ns' src, ns.Valid → (p.toSourceOn s).run ns = .ok src ns' → QuoteFree src.params →
        Quoting src.text (p.quoted s)) ∧
    ∀ (L : Labels) (w w' : World) (p : Predicate) (text : String), L.Holds w.caches →
      L.Fits p.nodes → p.dump.run w = .ok text w' → QuoteFree (p.dumpTexts w.store) →
        Quoting text (p.dumpQuoted w.store) := by
  refine ⟨exists_spellings_quote, ⟨fun s t h => ?_, quote_append_inj⟩, fun s k => ?_, fun d => ?_,
    fun s p hp => ⟨fun src hsrc => ?_, fun ns ns' src hns hsrc hparams => ?_⟩,
    fun L w w' p text => ?_⟩
  · have hlists := congrArg String.toList h
    exact ((quote_append_inj s t [] []).1 (by rw [hlists])).1
  · exact ⟨read_quote s k, lexes_quote_append_iff s k⟩
  · exact Datum.quoting_literal
  · exact Predicate.quoting_toSource hsrc hp
  · exact Predicate.quoting_toSourceOn hns hsrc hparams hp
  · exact Predicate.quoting_dump

/-- Quotation marks, backslashes and line ends in a key, in an element and in a description, beside a
function; and in operands, beside a property whose name is in quotes in source. -/
theorem quoted_texts_read_back_nested :
    let f : Function := { name := "isEven", arity := 1, closure := ⟨0⟩ }
    let d : Datum := .object ⟨0⟩ [("a \"b\"", .array ⟨0⟩ [.str "\\\"", .function f]),
      ("c", .symbol ⟨0⟩ "\n")]
    let p : Predicate := .boolean .and [.nested (.property (some "a b") none),
      .nested (.compare .equal (.str "\\\"")), .literal (.str "\n")]
    (d.literal = "\x7b \"a \\\"b\\\"\": [\"\\\\\\\"\", isEven], c: Symbol(\"\\n\") \x7d" ∧
      Quoting d.literal ["a \"b\"", "\\\"", "\n"]) ∧
    (∃ src, p.toSource {} = .ok src ∧
      src.text = "(a, b) => (a[\"a b\"] && b == \"\\\\\\\"\" && \"\\n\")" ∧
      Quoting src.text ["a b", "\\\"", "\n"]) ∧
    (∃ src ns, (p.toSourceOn {}).run (.ofNames ["x", "y"]) = .ok src ns ∧
      src.text = "(x, y) => (x[\"a b\"] && y == \"\\\\\\\"\" && \"\\n\")" ∧
      Quoting src.text ["a b", "\\\"", "\n"]) ∧
    ∃ text w, p.dump.run {} = .ok text w ∧
      text = "Predicate.and(Predicate.property('a b'), Predicate.equal(\"\\\\\\\"\"), \"\\n\")" ∧
      Quoting text ["\\\"", "\n"] := by
  intro f d p
  obtain ⟨-, -, -, hliteral, hsource, hdump⟩ := quoted_texts_read_back
  have hw : Labels.Holds {} ({} : World).caches :=
    ⟨rfl, rfl, fun _ _ _ hset => (by cases hset), fun _ _ _ _ hset => (by cases hset)⟩
  have hp : Labels.Fits {} p.nodes := by
    intro q hq
    simp only [p, Predicate.nodes, Predicate.inner, Operand.allNodes, Operand.nodes, List.append_nil,
      List.cons_append, List.nil_append, List.mem_cons, List.not_mem_nil, or_false] at hq
    rcases hq with rfl | rfl | rfl <;> trivial
  have hns : (ofNames ["x", "y"]).Valid := valid_ofNames (by decide)
  obtain ⟨hown, hgiven⟩ := hsource {} p (by decide)
  refine ⟨⟨by decide +kernel, hliteral d (by decide)⟩,
    ⟨_, rfl, by decide +kernel, hown _ rfl⟩,
    ⟨_, _, rfl, by decide +kernel, hgiven _ _ _ hns rfl (by decide)⟩,
    ⟨_, _, rfl, by decide +kernel, hdump {} {} _ p _ hw hp rfl (by decide)⟩⟩

end Criteria
