import CardGrove.Json.Parser
import Mathlib.Data.List.Infix
import Mathlib.Data.List.TakeWhile

/-! The limits of reading JSON. A text is refused for its depth only if more brackets are open at
once in it than is allowed, and for an integer only if too many digits stand in a row; any other
text is read or is not JSON. -/
namespace CardGrove

namespace CodePoint

def isOpening (c : CodePoint) : Bool := c == .char '[' || c == .char '\x7b'

def isClosing (c : CodePoint) : Bool := c == .char ']' || c == .char '\x7d'

def isQuote (c : CodePoint) : Bool := c == .char '"'

def isInert (c : CodePoint) : Bool := !c.isQuote && !c.isOpening && !c.isClosing

end CodePoint

namespace Json

/-- Where a scan stands: outside of strings, in one, or after a backslash in one. -/
inductive Place where
  | outside
  | quoted
  | escaped

/-- The greatest number of brackets that are open at once, of which some are open at the start. The
brackets in strings do not count. -/
def nestingFrom : Place → Nat → Text → Nat
  | _, opened, [] => opened
  | .escaped, opened, _ :: cs => nestingFrom .quoted opened cs
  | .quoted, opened, c :: cs =>
    if c.isQuote then nestingFrom .outside opened cs
    else if c = .char '\\' then nestingFrom .escaped opened cs
    else nestingFrom .quoted opened cs
  | .outside, opened, c :: cs =>
    if c.isQuote then nestingFrom .quoted opened cs
    else if c.isOpening then nestingFrom .outside (opened + 1) cs
    else if c.isClosing then max opened (nestingFrom .outside (opened - 1) cs)
    else nestingFrom .outside opened cs

def nesting (text : Text) : Nat := nestingFrom .outside 0 text

def HasLongRow (text : Text) : Prop :=
  ∃ row : Text, row <:+: text ∧ row.all CodePoint.isDigit ∧ greatestDigits < row.length

theorem not_hasLongRow_of_length {text : Text} (h : text.length ≤ greatestDigits) :
    ¬ HasLongRow text := by
  rintro ⟨row, hrow, -, hlong⟩
  have := hrow.length_le
  omega

theorem HasLongRow.of_suffix {cs rest : Text} (h : HasLongRow rest) (hrest : rest <:+ cs) :
    HasLongRow cs := by
  obtain ⟨row, hrow, hdigits, hlong⟩ := h
  exact ⟨row, hrow.trans hrest.isInfix, hdigits, hlong⟩

theorem le_nestingFrom (place : Place) (opened : Nat) (cs : Text) :
    opened ≤ nestingFrom place opened cs := by
  induction cs generalizing place opened with
  | nil => exact Nat.le_of_eq (nestingFrom.eq_1 place opened).symm
  | cons c cs ih =>
    cases place with
    | escaped => exact ih .quoted opened
    | quoted =>
      rw [nestingFrom]
      split
      · exact ih .outside opened
      · split
        · exact ih .escaped opened
        · exact ih .quoted opened
    | outside =>
      rw [nestingFrom]
      split
      · exact ih .quoted opened
      · split
        · exact (Nat.le_succ opened).trans (ih .outside (opened + 1))
        · split
          · exact Nat.le_max_left _ _
          · exact ih .outside opened

theorem nestingFrom_opening {c : CodePoint} (h : c.isOpening) (opened : Nat) (cs : Text) :
    nestingFrom .outside opened (c :: cs) = nestingFrom .outside (opened + 1) cs := by
  have hquote : c.isQuote = false := by
    simp only [CodePoint.isOpening, Bool.or_eq_true, beq_iff_eq] at h
    rcases h with rfl | rfl <;> rfl
  rw [nestingFrom, hquote, h]
  rfl

theorem nestingFrom_closing {c : CodePoint} (h : c.isClosing) (opened : Nat) (cs : Text) :
    nestingFrom .outside opened (c :: cs) =
      max opened (nestingFrom .outside (opened - 1) cs) := by
  simp only [CodePoint.isClosing, Bool.or_eq_true, beq_iff_eq] at h
  rcases h with rfl | rfl <;> rfl

theorem nestingFrom_inert {c : CodePoint} (h : c.isInert) (opened : Nat) (cs : Text) :
    nestingFrom .outside opened (c :: cs) = nestingFrom .outside opened cs := by
  simp only [CodePoint.isInert, Bool.and_eq_true, Bool.not_eq_true'] at h
  obtain ⟨⟨hquote, hopening⟩, hclosing⟩ := h
  rw [nestingFrom, hquote, hopening, hclosing]
  rfl

structure Leaves (closed : Nat) (cs rest : Text) : Prop where
  suffix : rest <:+ cs
  nesting_le : ∀ opened,
    nestingFrom .outside opened rest ≤ nestingFrom .outside (opened + closed) cs

namespace Leaves

theorem refl (cs : Text) : Leaves 0 cs cs := ⟨List.suffix_rfl, fun _ => Nat.le_refl _⟩

theorem trans {closed : Nat} {cs mid rest : Text} (h : Leaves 0 cs mid)
    (hrest : Leaves closed mid rest) : Leaves closed cs rest :=
  ⟨hrest.suffix.trans h.suffix, fun opened => (hrest.nesting_le opened).trans (h.nesting_le _)⟩

theorem inert {c : CodePoint} (h : c.isInert) (cs : Text) : Leaves 0 (c :: cs) cs :=
  ⟨List.suffix_cons c cs, fun opened => Nat.le_of_eq (nestingFrom_inert h opened cs).symm⟩

theorem closing {c : CodePoint} (h : c.isClosing) (cs : Text) : Leaves 1 (c :: cs) cs := by
  refine ⟨List.suffix_cons c cs, fun opened => ?_⟩
  rw [nestingFrom_closing h, Nat.add_sub_cancel]
  exact Nat.le_max_right _ _

theorem opening {c : CodePoint} (h : c.isOpening) {cs rest : Text} (hrest : Leaves 1 cs rest) :
    Leaves 0 (c :: cs) rest := by
  refine ⟨hrest.suffix.trans (List.suffix_cons c cs), fun opened => ?_⟩
  rw [Nat.add_zero, nestingFrom_opening h]
  exact hrest.nesting_le opened

theorem append {taken : Text} (h : ∀ c ∈ taken, c.isInert) (rest : Text) :
    Leaves 0 (taken ++ rest) rest := by
  induction taken with
  | nil => exact refl rest
  | cons c taken ih =>
    exact (inert (h c List.mem_cons_self) _).trans (ih fun d hd => h d (List.mem_cons_of_mem c hd))

theorem dropWhile {p : CodePoint → Bool} (h : ∀ c, p c → c.isInert) (cs : Text) :
    Leaves 0 cs (cs.dropWhile p) := by
  have htaken : ∀ c ∈ cs.takeWhile p, c.isInert := fun c hc => h c (List.mem_takeWhile_imp hc)
  have hleaves := append htaken (cs.dropWhile p)
  rwa [List.takeWhile_append_dropWhile] at hleaves

end Leaves

namespace Parser

theorem isInert_of_isSpace {c : CodePoint} (h : isSpace c) : c.isInert := by
  simp only [isSpace, Bool.or_eq_true, beq_iff_eq] at h
  rcases h with ((rfl | rfl) | rfl) | rfl <;> rfl

theorem isInert_of_isDigit {c : CodePoint} (h : c.isDigit) : c.isInert := by
  have hne (d : Char) (hd : d.isDigit = false) : (c == .char d) = false := by
    refine beq_eq_false_iff_ne.2 ?_
    rintro rfl
    exact Bool.false_ne_true (hd.symm.trans h)
  simp only [CodePoint.isInert, CodePoint.isQuote, CodePoint.isOpening, CodePoint.isClosing]
  rw [hne '"' rfl, hne '[' rfl, hne '\x7b' rfl, hne ']' rfl, hne '\x7d' rfl]
  rfl

theorem leaves_skipSpace (cs : Text) : Leaves 0 cs (skipSpace cs) :=
  .dropWhile (fun _ => isInert_of_isSpace) cs

theorem nestingFrom_quoted {c : CodePoint} (hquote : c.isQuote = false) (h : c ≠ .char '\\')
    (opened : Nat) (cs : Text) :
    nestingFrom .quoted opened (c :: cs) = nestingFrom .quoted opened cs := by
  rw [nestingFrom, hquote, if_neg h]
  rfl

theorem nestingFrom_hexDigit {c : CodePoint} {n : Nat} (h : hexDigit? c = some n) (opened : Nat)
    (cs : Text) : nestingFrom .quoted opened (c :: cs) = nestingFrom .quoted opened cs := by
  refine nestingFrom_quoted (beq_eq_false_iff_ne.2 ?_) ?_ opened cs
  · rintro rfl
    cases h
  · rintro rfl
    cases h

theorem exists_hexDigit {a b c d : CodePoint} {n : Nat} (h : hexUnit? a b c d = some n) :
    (∃ n, hexDigit? a = some n) ∧ (∃ n, hexDigit? b = some n) ∧ (∃ n, hexDigit? c = some n) ∧
      ∃ n, hexDigit? d = some n := by
  obtain ⟨a', ha, h⟩ := Option.bind_eq_some_iff.1 h
  obtain ⟨b', hb, h⟩ := Option.bind_eq_some_iff.1 h
  obtain ⟨c', hc, h⟩ := Option.bind_eq_some_iff.1 h
  obtain ⟨d', hd, -⟩ := Option.bind_eq_some_iff.1 h
  exact ⟨⟨a', ha⟩, ⟨b', hb⟩, ⟨c', hc⟩, ⟨d', hd⟩⟩

theorem pieces_spec {cs rest : Text} {taken ps : List Piece} (h : pieces taken cs = .ok (ps, rest)) :
    rest <:+ cs ∧ ∀ opened, nestingFrom .quoted opened cs = nestingFrom .outside opened rest := by
  fun_induction pieces taken cs with
  | case1 taken => cases h
  | case2 taken cs =>
    obtain ⟨-, rfl⟩ := Prod.mk.inj (Except.ok.inj h)
    exact ⟨List.suffix_cons _ cs, fun _ => rfl⟩
  | case3 taken a b c d cs n hunit ih =>
    obtain ⟨hsuffix, hnesting⟩ := ih h
    obtain ⟨⟨_, ha⟩, ⟨_, hb⟩, ⟨_, hc⟩, ⟨_, hd⟩⟩ := exists_hexDigit hunit
    have hescape : cs <:+ .char '\\' :: .char 'u' :: a :: b :: c :: d :: cs :=
      ⟨[.char '\\', .char 'u', a, b, c, d], rfl⟩
    refine ⟨hsuffix.trans hescape, fun opened => ?_⟩
    change nestingFrom .quoted opened (a :: b :: c :: d :: cs) = _
    rw [nestingFrom_hexDigit ha, nestingFrom_hexDigit hb, nestingFrom_hexDigit hc,
      nestingFrom_hexDigit hd, hnesting opened]
  | case4 => cases h
  | case5 taken c cs hne e he ih =>
    obtain ⟨hsuffix, hnesting⟩ := ih h
    have hescape : cs <:+ .char '\\' :: c :: cs := ⟨[.char '\\', c], rfl⟩
    exact ⟨hsuffix.trans hescape, hnesting⟩
  | case6 => cases h
  | case7 => cases h
  | case8 taken c cs hquote hne hne' hnumber ih =>
    obtain ⟨hsuffix, hnesting⟩ := ih h
    refine ⟨hsuffix.trans (List.suffix_cons c cs), fun opened => ?_⟩
    rw [← hnesting opened]
    refine nestingFrom_quoted (beq_eq_false_iff_ne.2 hquote) ?_ opened cs
    rintro rfl
    -- a backslash at the very end of a text opens no escape, but no quote follows it
    cases cs with
    | nil => cases h
    | cons c' cs => exact hne' c' cs rfl rfl

theorem pieces_error {cs : Text} {taken : List Piece} {e : ParseError}
    (h : pieces taken cs = .error e) : e = .malformed := by
  fun_induction pieces taken cs with
  | case1 | case4 | case6 | case7 => exact (Except.error.inj h).symm
  | case2 => cases h
  | case3 _ _ _ _ _ _ _ _ ih | case5 _ _ _ _ _ _ ih | case8 _ _ _ _ _ _ _ ih => exact ih h

/-- What an error tells about a text that may be nested to some depth. -/
def Blames (depth : Nat) (cs : Text) : ParseError → Prop
  | .malformed => True
  | .integerTooLong => HasLongRow cs
  | .tooDeep => ∀ opened, opened + depth < nestingFrom .outside opened cs

/-- Either a rest is reached that closes some brackets, or the error is the text's fault. -/
def Reads {α : Type} (depth closed : Nat) (cs : Text) : Except ParseError (α × Text) → Prop
  | .ok (_, rest) => Leaves closed cs rest
  | .error e => Blames depth cs e

variable {α β : Type} {depth closed : Nat} {cs rest : Text}

theorem Blames.of_leaves {e : ParseError} (h : Blames depth rest e) (hrest : Leaves 0 cs rest) :
    Blames depth cs e := by
  cases e with
  | malformed => trivial
  | integerTooLong => exact HasLongRow.of_suffix h hrest.suffix
  | tooDeep => exact fun opened => (h opened).trans_le (hrest.nesting_le opened)

namespace Reads

variable {x : Except ParseError (α × Text)}

theorem of_leaves (h : Reads depth closed rest x) (hrest : Leaves 0 cs rest) :
    Reads depth closed cs x := by
  cases x with
  | error e => exact Blames.of_leaves h hrest
  | ok r => exact hrest.trans h

theorem bind {f : α × Text → Except ParseError (β × Text)} (h : Reads depth 0 cs x)
    (hf : ∀ a rest, Reads depth closed rest (f (a, rest))) : Reads depth closed cs (x >>= f) := by
  cases x with
  | error e => exact h
  | ok r => exact of_leaves (hf r.1 r.2) h

theorem wrap {f : α × Text → Except ParseError (β × Text)} (h : Reads depth closed cs x)
    (hf : ∀ a rest, ∃ b, f (a, rest) = .ok (b, rest)) : Reads depth closed cs (x >>= f) := by
  cases x with
  | error e => exact h
  | ok r =>
    obtain ⟨b, hb⟩ := hf r.1 r.2
    change Reads depth closed cs (f (r.1, r.2))
    rw [hb]
    exact h

theorem opening {c : CodePoint} (hc : c.isOpening) (h : Reads depth 1 cs x) :
    Reads (depth + 1) 0 (c :: cs) x := by
  cases x with
  | error e =>
    cases e with
    | malformed => trivial
    | integerTooLong => exact HasLongRow.of_suffix h (List.suffix_cons c cs)
    | tooDeep =>
      intro opened
      have hopened := h (opened + 1)
      rw [nestingFrom_opening hc]
      omega
  | ok r => exact Leaves.opening hc h

end Reads

theorem reads_string (depth : Nat) (cs : Text) : Reads depth 0 (.char '"' :: cs) (string cs) := by
  rw [string]
  cases h : pieces [] cs with
  | error e =>
    rw [pieces_error h]
    trivial
  | ok r =>
    obtain ⟨hsuffix, hnesting⟩ := pieces_spec h
    exact ⟨hsuffix.trans (List.suffix_cons _ cs), fun opened => Nat.le_of_eq (hnesting opened).symm⟩

theorem leaves_word? {r : Json × Text} (h : word? cs = some r) : Leaves 0 cs r.2 := by
  obtain ⟨⟨w, v⟩, hmem, hword⟩ := List.exists_of_findSome?_eq_some h
  have hinert : ∀ p ∈ words, ∀ c ∈ p.1, c.isInert := by decide
  dsimp only at hword
  split at hword
  · next hprefix =>
    obtain rfl := Option.some.inj hword
    obtain ⟨rest, rfl⟩ := List.isPrefixOf_iff_prefix.1 hprefix
    rw [List.drop_left]
    exact .append (hinert _ hmem) rest
  · cases hword

theorem leaves_sign (cs : Text) : Leaves 0 cs (sign cs).2 := by
  rw [sign.eq_def]
  split
  · exact .inert rfl _
  · exact .refl cs

theorem leaves_digits (cs : Text) : Leaves 0 cs (digits cs).2 :=
  .dropWhile (fun _ => isInert_of_isDigit) cs

theorem leaves_whole (cs : Text) : Leaves 0 cs (whole cs).2 := by
  rw [whole.eq_def]
  split
  · exact .inert rfl _
  · exact leaves_digits cs

theorem leaves_fraction (cs : Text) : Leaves 0 cs (fraction cs).2 := by
  rw [fraction.eq_def]
  split
  · next cs =>
    dsimp only
    split
    · exact .refl _
    · exact .trans (.inert rfl cs) (leaves_digits cs)
  · exact .refl cs

theorem leaves_power {c : CodePoint} {cs after : Text} (hafter : Leaves 0 cs after) (n : Int) :
    Leaves 0 (c :: cs) (if (c == .char 'e' || c == .char 'E') && !(digits after).1.isEmpty then
      (some n, (digits after).2) else (none, c :: cs)).2 := by
  split
  · next h =>
    have hletter : c.isInert := by
      simp only [Bool.and_eq_true, Bool.or_eq_true, beq_iff_eq] at h
      rcases h.1 with rfl | rfl <;> rfl
    exact .trans (.inert hletter cs) (hafter.trans (leaves_digits after))
  · exact .refl _

theorem leaves_exponent (cs : Text) : Leaves 0 cs (exponent cs).2 := by
  rw [exponent.eq_def]
  split
  · exact .refl []
  · dsimp only
    split
    · exact leaves_power (.inert rfl _) _
    · exact leaves_power (leaves_sign _) _

theorem hasLongRow_of_whole (h : greatestDigits < (whole cs).1.length) : HasLongRow cs := by
  rw [whole.eq_def] at h
  split at h
  · exact absurd h (Nat.not_lt.2 (by decide : 1 ≤ greatestDigits))
  · refine ⟨cs.takeWhile CodePoint.isDigit, (List.takeWhile_prefix _).isInfix, ?_, ?_⟩
    · exact List.all_eq_true.2 fun c hc => List.mem_takeWhile_imp hc
    · exact h.trans_le (List.length_filterMap_le _ _)

theorem reads_number (depth : Nat) (cs : Text) : Reads depth 0 cs (number cs) := by
  have hsign := leaves_sign cs
  have hwhole := leaves_whole (sign cs).2
  have hfraction := leaves_fraction (whole (sign cs).2).2
  have hexponent := leaves_exponent (fraction (whole (sign cs).2).2).2
  have hrest := hsign.trans (hwhole.trans (hfraction.trans hexponent))
  rw [number]
  dsimp only
  split
  · trivial
  · split
    · split
      · next hlong => exact (hasLongRow_of_whole hlong).of_suffix hsign.suffix
      · exact hrest
    · exact hrest

variable {fuel : Nat}

theorem blames_opening {c : CodePoint} (hc : c.isOpening) (cs : Text) :
    Blames 0 (c :: cs) .tooDeep := by
  intro opened
  rw [nestingFrom_opening hc]
  exact le_nestingFrom .outside (opened + 1) cs

theorem leaves_closing {c : CodePoint} (hc : c.isClosing) {cs rest : Text}
    (h : skipSpace cs = c :: rest) : Leaves 1 cs rest := by
  have hspace := leaves_skipSpace cs
  rw [h] at hspace
  exact hspace.trans (.closing hc rest)

theorem leaves_inert {c : CodePoint} (hc : c.isInert) {cs rest : Text}
    (h : skipSpace cs = c :: rest) : Leaves 0 cs (skipSpace rest) := by
  have hspace := leaves_skipSpace cs
  rw [h] at hspace
  exact hspace.trans ((Leaves.inert hc rest).trans (leaves_skipSpace rest))

theorem reads_value (hitems : ∀ depth cs, Reads depth 1 cs (items depth fuel cs))
    (hmembers : ∀ depth cs, Reads depth 1 cs (members depth fuel cs)) (depth : Nat) (cs : Text) :
    Reads depth 0 cs (value depth (fuel + 1) cs) := by
  rw [value.eq_def]
  dsimp only
  split
  · exact (reads_string depth _).wrap fun a rest => ⟨_, rfl⟩
  · next cs =>
    split
    · exact blames_opening rfl cs
    · next hclosing => exact Leaves.opening rfl (leaves_closing rfl hclosing)
    · refine Reads.opening rfl (Reads.of_leaves ?_ (leaves_skipSpace cs))
      exact (hitems _ _).wrap fun a rest => ⟨_, rfl⟩
  · next cs =>
    split
    · exact blames_opening rfl cs
    · next hclosing => exact Leaves.opening rfl (leaves_closing rfl hclosing)
    · refine Reads.opening rfl (Reads.of_leaves ?_ (leaves_skipSpace cs))
      exact (hmembers _ _).wrap fun a rest => ⟨_, rfl⟩
  · split
    · next hword => exact leaves_word? hword
    · exact reads_number depth cs

theorem reads_items (hvalue : ∀ depth cs, Reads depth 0 cs (value depth fuel cs))
    (hitems : ∀ depth cs, Reads depth 1 cs (items depth fuel cs)) (depth : Nat) (cs : Text) :
    Reads depth 1 cs (items depth (fuel + 1) cs) := by
  rw [items]
  refine (hvalue depth cs).bind fun item rest => ?_
  dsimp only
  split
  · next hcomma =>
    refine Reads.of_leaves ?_ (leaves_inert rfl hcomma)
    exact (hitems depth _).wrap fun a rest => ⟨_, rfl⟩
  · next hclosing => exact leaves_closing rfl hclosing
  · trivial

theorem reads_members (hvalue : ∀ depth cs, Reads depth 0 cs (value depth fuel cs))
    (hmembers : ∀ depth cs, Reads depth 1 cs (members depth fuel cs)) (depth : Nat) (cs : Text) :
    Reads depth 1 cs (members depth (fuel + 1) cs) := by
  rw [members.eq_def]
  dsimp only
  split
  · next cs =>
    refine (reads_string depth cs).bind fun key rest => ?_
    dsimp only
    split
    · next hcolon =>
      refine Reads.of_leaves ?_ (leaves_inert rfl hcolon)
      refine (hvalue depth _).bind fun v rest => ?_
      dsimp only
      split
      · next hcomma =>
        refine Reads.of_leaves ?_ (leaves_inert rfl hcomma)
        exact (hmembers depth _).wrap fun a rest => ⟨_, rfl⟩
      · next hclosing => exact leaves_closing rfl hclosing
      · trivial
    · trivial
  · trivial

theorem reads_all (fuel : Nat) :
    (∀ depth cs, Reads depth 0 cs (value depth fuel cs)) ∧
    (∀ depth cs, Reads depth 1 cs (items depth fuel cs)) ∧
    ∀ depth cs, Reads depth 1 cs (members depth fuel cs) := by
  -- all three at once, since they call each other with one unit of fuel less
  induction fuel with
  | zero =>
    refine ⟨fun depth cs => ?_, fun depth cs => ?_, fun depth cs => ?_⟩
    · rw [value]
      trivial
    · rw [items]
      trivial
    · rw [members]
      trivial
  | succ fuel ih =>
    obtain ⟨hvalue, hitems, hmembers⟩ := ih
    exact ⟨reads_value hitems hmembers, reads_items hvalue hitems, reads_members hvalue hmembers⟩

end Parser

/-- A text that is refused for its depth has more brackets open at once than is allowed, and one
that is refused for an integer has too many digits in a row. -/
theorem blames_parseTo {depth : Nat} {text : Text} {e : ParseError}
    (h : parseTo depth text = .error e) : Parser.Blames depth text e := by
  rw [parseTo] at h
  have hvalue := (Parser.reads_all (2 * text.length + 2)).1 depth (Parser.skipSpace text)
  cases hv : Parser.value depth (2 * text.length + 2) (Parser.skipSpace text) with
  | error e' =>
    rw [hv] at h hvalue
    obtain rfl := Except.error.inj h
    exact Parser.Blames.of_leaves hvalue (Parser.leaves_skipSpace text)
  | ok r =>
    rw [hv] at h
    change (if (Parser.skipSpace r.2).isEmpty then _ else _) = _ at h
    split at h
    · cases h
    · rw [← Except.error.inj h]
      trivial

theorem parseTo_ne_tooDeep {depth : Nat} {text : Text} (h : nesting text ≤ depth) :
    parseTo depth text ≠ .error .tooDeep := by
  intro herror
  have := blames_parseTo herror 0
  rw [nesting] at h
  omega

theorem parseTo_ne_integerTooLong (depth : Nat) {text : Text} (h : ¬ HasLongRow text) :
    parseTo depth text ≠ .error .integerTooLong := fun herror => h (blames_parseTo herror)

end Json
end CardGrove
