import Refit.Proofs.Association
import Refit.Proofs.Expression.Literals

/-!
# Expressions by their structure

An expression is written with parentheses only around operands that bind less tightly than
their place asks for, on the right also around those that bind as tightly.  Evaluating its
text, whatever blanks are in it, comes to the same as evaluating the expression itself: the
operands from left to right, then the operator, up to the first failure.
-/

namespace Refit.Expression

section Words

def keywords : List String := ["true", "false", "null", "new"]

/-- A name that stands for a value. -/
structure Variable where
  id : Identifier
  free : id.text ∉ keywords

/-- The name of a type other than float and double. -/
structure ElementName where
  id : Identifier
  type : ValueType
  parsed : ValueType.parse id.text = .ok type
  notFloat : type ≠ .primitive .float
  notDouble : type ≠ .primitive .double

def trueWord : Identifier := .plain 't' ['r', 'u', 'e'] (by decide)

def falseWord : Identifier := .plain 'f' ['a', 'l', 's', 'e'] (by decide)

def nullWord : Identifier := .plain 'n' ['u', 'l', 'l'] (by decide)

def newWord : Identifier := .plain 'n' ['e', 'w'] (by decide)

theorem Operator.isMark_mark (op : Operator) : isMark op.mark = true := by
  cases op <;> rfl

def Operator.level : Operator → ℕ
  | .add | .sub => 0
  | .mul | .div | .rem => 1

end Words

inductive Expr where
  | int (n : Int32)
  | long (n : Int64) (hn : n ≠ Int64.minValue)
  | letter (g : Glyph)
  | text (gs : List TextGlyph)
  | bool (b : Bool)
  | null
  | result (n : UInt64)
  | name (x : Variable)
  | list (items : List Expr)
  | array (element : ElementName) (items : List Expr)
  | negative (e : Expr)
  | binary (op : Operator) (left right : Expr)

/-- The lexemes of an operand, in parentheses if it binds less tightly than it should. -/
def parenthesized (least level : ℕ) (ls : List Lexeme) : List Lexeme :=
  if least ≤ level then ls else .mark '(' rfl :: (ls ++ [.mark ')' rfl])

namespace Expr

/-- How tightly the expression binds: sums least, then products. -/
def level : Expr → ℕ
  | binary op _ _ => op.level
  | _ => 2

mutual

/-- The expression as it is written. -/
def lexemes : Expr → List Lexeme
  | int n => signed n.toInt false (natAbs_int n)
  | long n hn => signed n.toInt true (natAbs_long hn)
  | letter g => [.letter g]
  | text gs => [.text gs]
  | bool b => [.name (if b then trueWord else falseWord)]
  | null => [.name nullWord]
  | result n => [.result n]
  | name x => [.name x.id]
  | list items => .mark '[' rfl :: (itemLexemes items ++ [.mark ']' rfl])
  | array element items =>
    .name newWord :: .name element.id :: .mark '[' rfl :: .mark ']' rfl :: .mark '\x7b' rfl ::
      (itemLexemes items ++ [.mark '\x7d' rfl])
  | negative e => .mark '-' isMark_minus :: parenthesized 2 e.level e.lexemes
  | binary op left right =>
    parenthesized op.level left.level left.lexemes ++
      .mark op.mark op.isMark_mark :: parenthesized (op.level + 1) right.level right.lexemes

def itemLexemes : List Expr → List Lexeme
  | [] => []
  | [item] => item.lexemes
  | item :: other :: items => item.lexemes ++ .mark ',' rfl :: itemLexemes (other :: items)

end

mutual

/-- The value of the expression, or the first failure on the way to it. -/
def meaning (ctx : Context) : Expr → Except Failure Value
  | int n => .ok (.int n)
  | long n _ => .ok (.long n)
  | letter g => .ok (.char g.char)
  | text gs => .ok (.text (String.ofList (gs.map (·.glyph.char))))
  | bool b => .ok (.bool b)
  | null => .ok .null
  | result n =>
    match ctx.result? n.toNat with
    | some v => .ok v
    | none => .error (.noResult n.toNat)
  | name x =>
    match ctx.name? x.id.text with
    | some v => .ok v
    | none => .error (.unknownName x.id.text)
  | list items => (meanings ctx items).map .list
  | array element items => (meanings ctx items).bind (typed element.type)
  | negative e => (meaning ctx e).bind opposite
  | binary op left right =>
    (meaning ctx left).bind fun a => (meaning ctx right).bind fun b => op.apply a b

def meanings (ctx : Context) : List Expr → Except Failure (List Value)
  | [] => .ok []
  | item :: items => (meaning ctx item).bind fun v => (meanings ctx items).map (v :: ·)

end

end Expr

section Levels

/-- The tokens are read as what binds so tightly. -/
def ReadsAt (ctx : Context) : ℕ → List Token → Except Failure Value → Prop
  | 0 => ReadsSum ctx
  | 1 => ReadsProduct ctx
  | _ => ReadsFactor ctx

variable {ctx : Context} {least level : ℕ} {ts : List Token} {m : Except Failure Value}

theorem ReadsAt.sum (hts : ts ≠ []) (h : ReadsAt ctx level ts m) : ReadsSum ctx ts m := by
  match level with
  | 0 => exact h
  | 1 => exact ReadsProduct.sum hts h
  | _ + 2 => exact (ReadsFactor.product hts h).sum hts

theorem ReadsAt.lower (hts : ts ≠ []) (hle : least ≤ level) (h : ReadsAt ctx level ts m) :
    ReadsAt ctx least ts m := by
  match least, level with
  | 0, _ => exact h.sum hts
  | 1, 1 => exact h
  | 1, _ + 2 => exact ReadsFactor.product hts h
  | _ + 2, _ + 2 => exact h

theorem ReadsFactor.at (hts : ts ≠ []) (h : ReadsFactor ctx ts m) (level : ℕ) :
    ReadsAt ctx level ts m := by
  match level with
  | 0 => exact (h.product hts).sum hts
  | 1 => exact h.product hts
  | _ + 2 => exact h

theorem ReadsAt.parenthesized {ls : List Lexeme} (hls : ls ≠ [])
    (h : ReadsAt ctx level (ls.map Lexeme.token) m) (least : ℕ) :
    ReadsAt ctx least ((parenthesized least level ls).map Lexeme.token) m := by
  have hts : ls.map Lexeme.token ≠ [] := fun hnil => hls (List.map_eq_nil_iff.mp hnil)
  unfold Expression.parenthesized
  split_ifs with hle
  · exact h.lower hts hle
  · have hfactor := (h.sum hts).parens hts
    have htokens : (Lexeme.mark '(' rfl :: (ls ++ [.mark ')' rfl])).map Lexeme.token =
        .mark '(' :: (ls.map Lexeme.token ++ [.mark ')']) := by
      rw [List.map_cons, List.map_append]
      rfl
    rw [htokens]
    exact hfactor.at (List.cons_ne_nil _ _) least

end Levels

section Fronts

/-- In front there is a word, a minus or a mark that opens something. -/
def Opens (ls : List Lexeme) : Prop :=
  ∃ l more, ls = l :: more ∧ ∀ c, l.token = .mark c → c = '-' ∨ c = '(' ∨ c = '['

variable {ls : List Lexeme}

theorem opens_word {l : Lexeme} (hl : l.isMark = false) (more : List Lexeme) :
    Opens (l :: more) :=
  ⟨l, more, rfl, fun c hc => absurd hc (Lexeme.token_ne_mark hl c)⟩

theorem opens_mark {c : Char} {hc : isMark c = true} (hopen : c = '-' ∨ c = '(' ∨ c = '[')
    (more : List Lexeme) : Opens (.mark c hc :: more) :=
  ⟨_, more, rfl, fun _ hsame => Token.mark.inj hsame ▸ hopen⟩

theorem Opens.ne_nil (h : Opens ls) : ls ≠ [] := by
  rcases h with ⟨l, more, rfl, -⟩
  exact List.cons_ne_nil l more

theorem Opens.tokens_ne_nil (h : Opens ls) : ls.map Lexeme.token ≠ [] := by
  rcases h with ⟨l, more, rfl, -⟩
  exact List.cons_ne_nil _ _

theorem Opens.append (h : Opens ls) (ls' : List Lexeme) : Opens (ls ++ ls') := by
  rcases h with ⟨l, more, rfl, hmark⟩
  exact ⟨l, more ++ ls', rfl, hmark⟩

theorem Opens.parenthesized (h : Opens ls) (least level : ℕ) :
    Opens (parenthesized least level ls) := by
  unfold Expression.parenthesized
  split_ifs
  · exact h
  · exact opens_mark (by simp) _

theorem opens_signed {n : ℤ} {long : Bool} {hn : n.natAbs < 2 ^ 63} :
    Opens (signed n long hn) := by
  unfold signed
  split_ifs
  · exact opens_mark (by simp) _
  · exact opens_word rfl _

/-- No item begins with the mark that would close it. -/
theorem Opens.head_ne (h : Opens ls) {close : Char} (hclose : Closes close) :
    (ls.map Lexeme.token).head? ≠ some (.mark close) := by
  rcases h with ⟨l, more, rfl, hmark⟩
  intro hhead
  have hsign := hmark close (Option.some.inj hhead)
  rcases hclose with rfl | rfl
  · exact absurd hsign (by decide)
  · exact absurd hsign (by decide)

end Fronts

namespace Expr

theorem opens : ∀ e : Expr, Opens e.lexemes
  | int _ => opens_signed
  | long _ _ => opens_signed
  | letter _ => opens_word rfl _
  | text _ => opens_word rfl _
  | bool _ => opens_word rfl _
  | null => opens_word rfl _
  | result _ => opens_word rfl _
  | name _ => opens_word rfl _
  | list _ => opens_mark (by simp) _
  | array _ _ => opens_word rfl _
  | negative _ => opens_mark (by simp) _
  | binary op left _ => ((opens left).parenthesized op.level left.level).append _

theorem opens_itemLexemes (item : Expr) (items : List Expr) :
    Opens (itemLexemes (item :: items)) := by
  cases items with
  | nil => exact item.opens
  | cons other items => exact item.opens.append _

inductive Unsigned : Expr → Prop
  | int {n : Int32} (hn : 0 ≤ n.toInt) : Unsigned (.int n)
  | long {n : Int64} {hn : n ≠ Int64.minValue} (hn' : 0 ≤ n.toInt) : Unsigned (.long n hn)

/-- Only a whole number without a sign is taken for part of a literal behind a minus. -/
theorem head_ne_int {e : Expr} (he : ¬ Unsigned e) (k : ℤ) (long : Bool) :
    ((parenthesized 2 e.level e.lexemes).map Lexeme.token).head? ≠ some (.int k long) := by
  have hsigned : ∀ {n : ℤ} (hn : n.natAbs < 2 ^ 63) (suffix : Bool), n < 0 →
      ((signed n suffix hn).map Lexeme.token).head? ≠ some (.int k long) := by
    intro n hn suffix hnegative
    unfold signed
    rw [if_pos hnegative]
    intro hhead
    cases hhead
  cases e with
  | int n => exact hsigned _ _ (not_le.mp fun hn => he (.int hn))
  | long n hn => exact hsigned _ _ (not_le.mp fun hn' => he (.long hn'))
  | binary op left right =>
      have hlevel : ¬ 2 ≤ op.level := by cases op <;> decide
      change ((parenthesized 2 op.level _).map Lexeme.token).head? ≠ _
      unfold parenthesized
      rw [if_neg hlevel]
      intro hhead
      cases hhead
  | _ =>
      intro hhead
      cases hhead

end Expr

/-- No value that the context has is a float or a double. -/
structure Context.Exact (ctx : Context) : Prop where
  results : ∀ n v, ctx.result? n = some v → v.isFloating = false
  names : ∀ name v, ctx.name? name = some v → v.isFloating = false

theorem Context.exact_of_entries {ctx : Context}
    (hresults : ∀ entry ∈ ctx.results, entry.2.isFloating = false)
    (hnames : ∀ entry ∈ ctx.names, entry.2.isFloating = false) : ctx.Exact where
  results _ _ hv := hresults _ (mem_of_lookup_eq_some hv)
  names _ _ hv := hnames _ (mem_of_lookup_eq_some hv)

namespace Expr

variable {ctx : Context}

section Values

theorem isFloating_of_meaning (hctx : ctx.Exact) {e : Expr} {v : Value}
    (hv : e.meaning ctx = .ok v) : v.isFloating = false := by
  cases e with
  | result n =>
      rw [meaning] at hv
      split at hv
      · next w hw =>
        cases hv
        exact hctx.results _ _ hw
      · cases hv
  | name x =>
      rw [meaning] at hv
      split at hv
      · next w hw =>
        cases hv
        exact hctx.names _ _ hw
      · cases hv
  | list items =>
      rw [meaning] at hv
      rcases exists_of_map_eq_ok hv with ⟨vs, -, rfl⟩
      rfl
  | array element items =>
      rw [meaning] at hv
      rcases exists_of_bind_eq_ok hv with ⟨vs, -, htyped⟩
      exact isFloating_of_typed htyped
  | negative e =>
      rw [meaning] at hv
      rcases exists_of_bind_eq_ok hv with ⟨w, -, hopposite⟩
      exact isFloating_of_opposite hopposite
  | binary op left right =>
      rw [meaning] at hv
      rcases exists_of_bind_eq_ok hv with ⟨a, -, hright⟩
      rcases exists_of_bind_eq_ok hright with ⟨b, -, happly⟩
      exact isFloating_of_apply happly
  | _ =>
      cases hv
      rfl

theorem isFloating_of_meanings (hctx : ctx.Exact) {items : List Expr} {vs : List Value}
    (hvs : meanings ctx items = .ok vs) : ∀ v ∈ vs, v.isFloating = false := by
  induction items generalizing vs with
  | nil =>
      cases hvs
      nofun
  | cons item items ih =>
      rw [meanings] at hvs
      rcases exists_of_bind_eq_ok hvs with ⟨w, hw, hmore⟩
      rcases exists_of_map_eq_ok hmore with ⟨ws, hws, rfl⟩
      intro v hv
      rcases List.mem_cons.mp hv with rfl | hv
      · exact isFloating_of_meaning hctx hw
      · exact ih hws v hv

end Values

section Reading

/-- The tokens of the expression are read as the expression. -/
def Reads (ctx : Context) (e : Expr) : Prop :=
  ReadsAt ctx e.level (e.lexemes.map Lexeme.token) (e.meaning ctx)

theorem reads_word {e : Expr} {l : Lexeme} (hlevel : e.level = 2) (hlexemes : e.lexemes = [l])
    (hword : l.isMark = false)
    (hprimary : ∀ fuel rest,
      primary ctx (fuel + 1) (l.token :: rest) = (e.meaning ctx).map (·, rest)) :
    Reads ctx e := by
  unfold Reads
  rw [hlevel, hlexemes]
  exact readsFactor_token (Lexeme.token_ne_mark hword) hprimary

theorem reads_signed {e : Expr} {n : ℤ} {long : Bool} {hn : n.natAbs < 2 ^ 63}
    (hlevel : e.level = 2) (hlexemes : e.lexemes = signed n long hn)
    (hmeaning : e.meaning ctx = wholeLiteral n long) : Reads ctx e := by
  unfold Reads
  rw [hlevel, hlexemes, hmeaning]
  exact readsFactor_signed

theorem reads_bool (b : Bool) : Reads ctx (.bool b) := by
  cases b with
  | true => exact reads_word rfl rfl rfl fun _ _ => rfl
  | false => exact reads_word rfl rfl rfl fun _ _ => rfl

theorem reads_result (n : UInt64) : Reads ctx (.result n) := by
  apply reads_word (l := .result n) rfl rfl rfl
  intro fuel rest
  rw [meaning]
  change primary ctx (fuel + 1) (.result n.toNat :: rest) = _
  rw [primary]
  cases ctx.result? n.toNat <;> rfl

theorem reads_name (x : Variable) : Reads ctx (.name x) := by
  apply reads_word (l := .name x.id) rfl rfl rfl
  intro fuel rest
  have hfree := x.free
  simp only [keywords, List.mem_cons, List.not_mem_nil, or_false, not_or] at hfree
  rcases hfree with ⟨htrue, hfalse, hnull, hnew⟩
  rw [meaning]
  change primary ctx (fuel + 1) (.name x.id.text :: rest) = _
  rw [primary]
  simp only [htrue, hfalse, hnull, hnew, if_false]
  cases ctx.name? x.id.text <;> rfl

theorem bind_negate_eq (hctx : ctx.Exact) (e : Expr) :
    (e.meaning ctx).bind negate = (Expr.negative e).meaning ctx := by
  rw [meaning]
  cases hv : e.meaning ctx with
  | error failure => rfl
  | ok v => exact negate_eq (isFloating_of_meaning hctx hv)

theorem bind_combine_eq (hctx : ctx.Exact) (op : Operator) (left right : Expr) :
    ((left.meaning ctx).bind fun a => (right.meaning ctx).bind fun b => combine op.mark a b) =
      (Expr.binary op left right).meaning ctx := by
  rw [meaning]
  cases ha : left.meaning ctx with
  | error failure => rfl
  | ok a =>
      cases hb : right.meaning ctx with
      | error failure => rfl
      | ok b =>
          exact op.combine_eq (isFloating_of_meaning hctx ha) (isFloating_of_meaning hctx hb)

theorem bind_arrayOf_eq (hctx : ctx.Exact) (element : ElementName) (items : List Expr) :
    (meanings ctx items).bind (arrayOf element.type) = (Expr.array element items).meaning ctx := by
  rw [meaning]
  cases hvs : meanings ctx items with
  | error failure => rfl
  | ok vs =>
      exact arrayOf_eq element.notFloat element.notDouble (isFloating_of_meanings hctx hvs)

theorem Reads.negative {e : Expr} (hctx : ctx.Exact) (h : Reads ctx e) :
    Reads ctx (.negative e) := by
  -- A minus before a number without a sign is not read as an operator.
  by_cases hunsigned : Unsigned e
  · cases hunsigned with
    | @int n hn =>
        have hread : ReadsFactor ctx _ _ := readsFactor_negated_signed false (natAbs_int n) hn
        have hhigh := n.toInt_lt
        rw [wholeLiteral_eq (.inr ⟨by omega, by omega⟩)] at hread
        exact hread
    | @long n hleast hn =>
        have hread : ReadsFactor ctx _ _ := readsFactor_negated_signed true (natAbs_long hleast) hn
        rw [wholeLiteral_eq (.inl rfl)] at hread
        exact hread
  · have hfactor : ReadsFactor ctx _ _ := h.parenthesized e.opens.ne_nil 2
    have hread := hfactor.negative ((e.opens.parenthesized 2 e.level).tokens_ne_nil)
      (head_ne_int hunsigned)
    rw [bind_negate_eq hctx] at hread
    exact hread

theorem Reads.binary (hctx : ctx.Exact) {op : Operator} {left right : Expr}
    (hleft : Reads ctx left) (hright : Reads ctx right) : Reads ctx (.binary op left right) := by
  have hleft' := hleft.parenthesized left.opens.ne_nil op.level
  have hright' := hright.parenthesized right.opens.ne_nil (op.level + 1)
  have hlevels : (op.level = 0 ∧ isSum op.mark = true) ∨
      (op.level = 1 ∧ isProduct op.mark = true) := by
    cases op <;> decide
  unfold Reads
  rw [← bind_combine_eq hctx, lexemes, List.map_append, List.map_cons]
  change ReadsAt ctx op.level _ _
  rcases hlevels with ⟨hlevel, hsum⟩ | ⟨hlevel, hproduct⟩
  · rw [hlevel] at hleft' hright' ⊢
    exact ReadsSum.operate hsum hleft' hright'
  · rw [hlevel] at hleft' hright' ⊢
    exact ReadsProduct.operate hproduct hleft' hright'

theorem readsItems_item {close : Char} (hclose : Closes close) {item : Expr} (h : Reads ctx item) :
    ReadsItems ctx close ((itemLexemes [item]).map Lexeme.token) (meanings ctx [item]) := by
  have hne := item.opens.tokens_ne_nil
  have hread := (h.sum hne).item hne hclose
  have hmeanings : meanings ctx [item] = (item.meaning ctx).map ([·]) := by
    rw [meanings, meanings]
    cases item.meaning ctx <;> rfl
  rw [hmeanings]
  exact hread

theorem readsItems_cons {close : Char} (hclose : Closes close) {item other : Expr}
    {items : List Expr} (h : Reads ctx item)
    (hmore : ReadsItems ctx close ((itemLexemes (other :: items)).map Lexeme.token)
      (meanings ctx (other :: items))) :
    ReadsItems ctx close ((itemLexemes (item :: other :: items)).map Lexeme.token)
      (meanings ctx (item :: other :: items)) := by
  have hne := item.opens.tokens_ne_nil
  have hread := (h.sum hne).items hne hclose hmore
  rw [itemLexemes, meanings, List.map_append, List.map_cons]
  exact hread

theorem readsAll_of_readsItems {close : Char} (hclose : Closes close) {items : List Expr}
    (h : items ≠ [] → ReadsItems ctx close ((itemLexemes items).map Lexeme.token)
      (meanings ctx items)) :
    ReadsAll ctx close ((itemLexemes items).map Lexeme.token) (meanings ctx items) := by
  cases items with
  | nil => exact readsAll_nil close
  | cons item items =>
      have hopens := opens_itemLexemes item items
      exact (h (List.cons_ne_nil _ _)).all hopens.tokens_ne_nil (hopens.head_ne hclose)

theorem reads_list {items : List Expr}
    (h : ReadsAll ctx ']' ((itemLexemes items).map Lexeme.token) (meanings ctx items)) :
    Reads ctx (.list items) := by
  have hread := h.list
  unfold Reads
  rw [lexemes, meaning, List.map_cons, List.map_append]
  exact hread

theorem reads_array (hctx : ctx.Exact) {element : ElementName} {items : List Expr}
    (h : ReadsAll ctx '\x7d' ((itemLexemes items).map Lexeme.token) (meanings ctx items)) :
    Reads ctx (.array element items) := by
  have hread := h.array element.parsed
  unfold Reads
  rw [bind_arrayOf_eq hctx] at hread
  rw [lexemes]
  simp only [List.map_cons, List.map_append, List.map_nil]
  exact hread

mutual

theorem reads (hctx : ctx.Exact) : ∀ e : Expr, Reads ctx e
  | int n => reads_signed rfl rfl (wholeLiteral_int n).symm
  | long n _ => reads_signed rfl rfl (wholeLiteral_long n).symm
  | letter _ => reads_word rfl rfl rfl fun _ _ => rfl
  | text _ => reads_word rfl rfl rfl fun _ _ => rfl
  | bool b => reads_bool b
  | null => reads_word rfl rfl rfl fun _ _ => rfl
  | result n => reads_result n
  | name x => reads_name x
  | list items =>
      reads_list (readsAll_of_readsItems (.inl rfl) (readsItems hctx (.inl rfl) items))
  | array _ items =>
      reads_array hctx (readsAll_of_readsItems (.inr rfl) (readsItems hctx (.inr rfl) items))
  | negative e => (reads hctx e).negative hctx
  | binary _ left right => (reads hctx left).binary hctx (reads hctx right)

theorem readsItems (hctx : ctx.Exact) {close : Char} (hclose : Closes close) :
    ∀ items : List Expr, items ≠ [] →
      ReadsItems ctx close ((itemLexemes items).map Lexeme.token) (meanings ctx items)
  | [], hitems => absurd rfl hitems
  | [item], _ => readsItems_item hclose (reads hctx item)
  | item :: other :: items, _ =>
      readsItems_cons hclose (reads hctx item)
        (readsItems hctx hclose (other :: items) (List.cons_ne_nil _ _))

end

end Reading

end Expr

/-- The text of an expression, with any blanks, evaluates to what the expression means, and
the only arithmetic fault is that of a division or remainder of whole numbers whose divisor
is zero. -/
theorem evaluate_meaning (e : Expr) {ctx : Context} (hctx : ctx.Exact) {text : String}
    (htext : Laid e.lexemes text.toList) :
    evaluate text ctx = (e.meaning ctx).mapError Failure.fault ∧
      ∀ (op : Operator) (left right : Value) (failure : Failure),
        op.apply left right = .error failure →
          (failure.fault.kind = "ArithmeticException" ↔
            (op = .div ∨ op = .rem) ∧ left.integer?.isSome = true ∧ right.integer? = some 0) := by
  have hne := e.opens.tokens_ne_nil
  have hvalue := ((Expr.reads hctx e).sum hne).value_eq hne htext.tokens_eq
  constructor
  · unfold evaluate
    rw [hvalue]
    cases e.meaning ctx <;> rfl
  · intro op left right failure hfailure
    rw [failure.kind_fault_iff, ← op.apply_eq_divisionByZero_iff, hfailure, Except.error.injEq]

def price : Variable := ⟨.plain 'p' ['r', 'i', 'c', 'e'] (by decide), by decide⟩

/-- A text with a tab, and behind it the product of a negated name with a difference. -/
def labelled : Expr :=
  .binary .add (.text [⟨.plain 'n' (by decide), rfl⟩, ⟨.escape ('t', '\t') (by decide), rfl⟩])
    (.binary .mul (.negative (.name price)) (.binary .sub (.int 3) (.long 5 (by decide))))

theorem evaluate_labelled :
    evaluate "\"n\\t\" + - price * ( 3 - 5L ) " { names := [("price", .int 7)] } =
      .ok (.text "n\t14") := by
  have hctx : Context.Exact { names := [("price", .int 7)] } :=
    Context.exact_of_entries nofun (by simp [Value.isFloating])
  have htext : "\"n\\t\" + - price * ( 3 - 5L ) ".toList =
      labelled.lexemes.flatMap fun l => l.chars ++ [' '] := by
    decide +kernel
  have hlaid : Laid labelled.lexemes "\"n\\t\" + - price * ( 3 - 5L ) ".toList := by
    rw [htext]
    exact laid_spaced _
  rw [(evaluate_meaning labelled hctx hlaid).1]
  rfl

end Refit.Expression
