import CardGrove.Proofs.Json.Scalars
import CardGrove.Proofs.Json.Within
import CardGrove.Proofs.Text.Encoding

/-! What is written line by line reads back: a value whose integers are short enough to be read,
without doubles and without keys that repeat, is what the parser finds in its text. -/
namespace CardGrove.Json

/-- No double is in the value, and no object in it has a key twice. -/
def isRegular : Json → Bool :=
  every fun
    | float _ => false
    | obj members => (members.map (·.1)).Nodup
    | _ => true

theorem setMember_of_notMem {key : Text} {members : List (Text × Json)}
    (h : key ∉ members.map (·.1)) (v : Json) :
    setMember key v members = members ++ [(key, v)] := by
  induction members with
  | nil => rfl
  | cons m members ih =>
    rw [List.map_cons, List.mem_cons, not_or] at h
    rw [setMember, if_neg (Ne.symm h.1), ih h.2]
    rfl

theorem foldl_setMember (done members : List (Text × Json))
    (h : ((done ++ members).map (·.1)).Nodup) :
    members.foldl (fun done (key, value) => setMember key value done) done = done ++ members := by
  induction members generalizing done with
  | nil => exact (List.append_nil done).symm
  | cons m members ih =>
    have hnew : m.1 ∉ done.map (·.1) := by
      rw [List.map_append, List.nodup_append] at h
      exact fun hm => h.2.2 _ hm _ (List.mem_map_of_mem List.mem_cons_self) rfl
    rw [List.append_cons] at h ⊢
    rw [List.foldl_cons, ← ih _ h]
    dsimp only
    rw [setMember_of_notMem hnew]

theorem ofWritten_eq_self {members : List (Text × Json)} (h : (members.map (·.1)).Nodup) :
    ofWritten members = members := foldl_setMember [] members h

namespace Parser

open Printer (lines)

theorem skipSpace_cons {c : CodePoint} (h : isSpace c = false) (cs : Text) :
    skipSpace (c :: cs) = c :: cs := List.dropWhile_cons_of_neg (by simp [h])

theorem skipSpace_line (k : Nat) (cs : Text) : skipSpace (lines.line k ++ cs) = skipSpace cs := by
  refine List.dropWhile_append_of_pos fun c hc => ?_
  rcases List.mem_cons.1 hc with rfl | hc
  · rfl
  · obtain rfl := List.eq_of_mem_replicate hc
    rfl

theorem exists_of_mem_words {p : Text × Json} (hp : p ∈ words) :
    ∃ c w, p.1 = c :: w ∧ c.isDigit = false ∧
      (c = .char '-' → ∃ d w', w = d :: w' ∧ d.isDigit = false) := by
  simp only [words, List.mem_cons, List.not_mem_nil, or_false] at hp
  rcases hp with rfl | rfl | rfl | rfl | rfl | rfl
  case inr.inr.inr.inr.inr => exact ⟨_, _, rfl, by decide, fun _ => ⟨_, _, rfl, by decide⟩⟩
  all_goals exact ⟨_, _, rfl, by decide, fun h => absurd h (by decide)⟩

theorem ne_of_isDigit {c d : CodePoint} (hc : c.isDigit) (hd : d.isDigit = false) : c ≠ d :=
  fun h => Bool.noConfusion (hc.symm.trans (h ▸ hd))

theorem word?_digit {c : CodePoint} (h : c.isDigit) (cs : Text) : word? (c :: cs) = none := by
  rw [word?, List.findSome?_eq_none_iff]
  intro p hp
  obtain ⟨d, w, hw, hd, -⟩ := exists_of_mem_words hp
  simp [hw, List.isPrefixOf, (ne_of_isDigit h hd).symm]

theorem word?_minus {c : CodePoint} (h : c.isDigit) (cs : Text) :
    word? (.char '-' :: c :: cs) = none := by
  rw [word?, List.findSome?_eq_none_iff]
  intro p hp
  obtain ⟨d, w, hw, -, hminus⟩ := exists_of_mem_words hp
  by_cases hd : d = .char '-'
  · obtain ⟨e, w', hw', he⟩ := hminus hd
    simp [hw, hw', List.isPrefixOf, (ne_of_isDigit h he).symm]
  · simp [hw, List.isPrefixOf, hd]

theorem exists_ofInt (n : Int) : ∃ d ds, d.isDigit ∧
    (Text.ofInt n = d :: ds ∨ Text.ofInt n = .char '-' :: d :: ds) := by
  obtain ⟨d, ds, hd, hds⟩ := exists_toDigits n.natAbs
  refine ⟨.char d, ds.map .char, hd, ?_⟩
  rw [Text.ofInt, hds]
  by_cases hn : n < 0
  · exact .inr (if_pos hn)
  · exact .inl (if_neg hn)

theorem word?_ofInt (n : Int) (rest : Text) : word? (Text.ofInt n ++ rest) = none := by
  obtain ⟨d, ds, hd, hn | hn⟩ := exists_ofInt n
  · rw [hn]
    exact word?_digit hd _
  · rw [hn]
    exact word?_minus hd _

theorem value_ofInt {n : Int} (hlimit : (int n).withinLimit) {rest : Text}
    (hrest : EndsNumeral rest) (depth fuel : Nat) :
    value depth (fuel + 1) (Text.ofInt n ++ rest) = .ok (.int n, rest) := by
  have hfirst : ∀ c cs, Text.ofInt n ++ rest = c :: cs →
      c ≠ .char '"' ∧ c ≠ .char '[' ∧ c ≠ .char '\x7b' := by
    intro c cs heq
    obtain ⟨d, ds, hd, hn | hn⟩ := exists_ofInt n <;> rw [hn] at heq <;>
      obtain ⟨rfl, -⟩ := List.cons.inj heq
    · exact ⟨ne_of_isDigit hd rfl, ne_of_isDigit hd rfl, ne_of_isDigit hd rfl⟩
    · decide
  rw [value, word?_ofInt, number_ofInt hrest hlimit]
  · exact fun cs heq => (hfirst _ cs heq).1 rfl
  · exact fun cs heq => (hfirst _ cs heq).2.1 rfl
  · exact fun cs heq => (hfirst _ cs heq).2.2 rfl

theorem isSpace_digit {c : CodePoint} (h : c.isDigit) : isSpace c = false := by
  simp only [isSpace, Bool.or_eq_false_iff, beq_eq_false_iff_ne]
  exact ⟨⟨⟨ne_of_isDigit h rfl, ne_of_isDigit h rfl⟩, ne_of_isDigit h rfl⟩, ne_of_isDigit h rfl⟩

theorem exists_value_lines {v : Json} (hv : v.isRegular) (k : Nat) :
    ∃ c cs, Printer.value lines k v = c :: cs ∧ isSpace c = false ∧ c ≠ .char ']' := by
  cases v with
  | null => exact ⟨_, _, rfl, by decide, by decide⟩
  | bool b => cases b <;> exact ⟨_, _, rfl, by decide, by decide⟩
  | int n =>
    obtain ⟨d, ds, hd, hn | hn⟩ := exists_ofInt n
    · exact ⟨d, ds, hn, isSpace_digit hd, ne_of_isDigit hd rfl⟩
    · exact ⟨_, _, hn, by decide, by decide⟩
  | float x => cases hv
  | str s => exact ⟨_, _, rfl, by decide, by decide⟩
  | arr items => cases items <;> exact ⟨_, _, rfl, by decide, by decide⟩
  | obj members => cases members <;> exact ⟨_, _, rfl, by decide, by decide⟩

theorem skipSpace_value {v : Json} (hv : v.isRegular) (k : Nat) (cs : Text) :
    skipSpace (Printer.value lines k v ++ cs) = Printer.value lines k v ++ cs := by
  obtain ⟨c, ds, hc, hspace, -⟩ := exists_value_lines hv k
  rw [hc, List.cons_append, skipSpace_cons hspace]

theorem exists_fuel {v : Json} (hv : v.isRegular) {k fuel : Nat}
    (hfuel : 2 * (Printer.value lines k v).length ≤ fuel) : ∃ n, fuel = n + 1 := by
  obtain ⟨c, cs, hc, -, -⟩ := exists_value_lines hv k
  rw [hc, List.length_cons] at hfuel
  exact Nat.exists_eq_succ_of_ne_zero (by omega)

section Steps

variable {depth fuel : Nat} {cs ds rest : Text} {key : Text} {v : Json}

theorem items_last (hvalue : value depth fuel cs = .ok (v, ds))
    (hspace : skipSpace ds = .char ']' :: rest) :
    Parser.items depth (fuel + 1) cs = .ok ([v], rest) := by
  simp [Parser.items, hvalue, hspace, bind, Except.bind, pure, Except.pure]

theorem items_cons {items : List Json} {es : Text} (hvalue : value depth fuel cs = .ok (v, ds))
    (hspace : skipSpace ds = .char ',' :: es)
    (hitems : Parser.items depth fuel (skipSpace es) = .ok (items, rest)) :
    Parser.items depth (fuel + 1) cs = .ok (v :: items, rest) := by
  simp [Parser.items, hvalue, hspace, hitems, bind, Except.bind, pure, Except.pure]

theorem members_last (hstring : string cs = .ok (key, ds))
    {es fs : Text} (hcolon : skipSpace ds = .char ':' :: es)
    (hvalue : value depth fuel (skipSpace es) = .ok (v, fs))
    (hspace : skipSpace fs = .char '\x7d' :: rest) :
    Parser.members depth (fuel + 1) (.char '"' :: cs) = .ok ([(key, v)], rest) := by
  simp [Parser.members, hstring, hcolon, hvalue, hspace, bind, Except.bind, pure, Except.pure]

theorem members_cons (hstring : string cs = .ok (key, ds))
    {es fs gs : Text} (hcolon : skipSpace ds = .char ':' :: es)
    (hvalue : value depth fuel (skipSpace es) = .ok (v, fs))
    (hspace : skipSpace fs = .char ',' :: gs) {members : List (Text × Json)}
    (hmembers : Parser.members depth fuel (skipSpace gs) = .ok (members, rest)) :
    Parser.members depth (fuel + 1) (.char '"' :: cs) = .ok ((key, v) :: members, rest) := by
  simp [Parser.members, hstring, hcolon, hvalue, hspace, hmembers, bind, Except.bind, pure,
    Except.pure]

theorem value_arr {items : List Json} {c : CodePoint} (hspace : skipSpace cs = c :: ds)
    (hc : c ≠ .char ']') (hitems : Parser.items depth fuel (c :: ds) = .ok (items, rest)) :
    value (depth + 1) (fuel + 1) (.char '[' :: cs) = .ok (.arr items, rest) := by
  rw [value.eq_def]
  simp [hspace, hc, hitems, bind, Except.bind, pure, Except.pure]

theorem value_obj {members : List (Text × Json)} (hspace : skipSpace cs = .char '"' :: ds)
    (hmembers : Parser.members depth fuel (.char '"' :: ds) = .ok (members, rest)) :
    value (depth + 1) (fuel + 1) (.char '\x7b' :: cs) = .ok (.obj (ofWritten members), rest) := by
  rw [value.eq_def]
  simp [hspace, hmembers, bind, Except.bind, pure, Except.pure]

end Steps

/-- The value is what is read, nested to a depth, where it is written. Twice the text is fuel
enough: a list takes a step of its own for each of its separators. -/
def ReadsBack (depth : Nat) (v : Json) : Prop :=
  ∀ fuel k rest, 2 * (Printer.value lines k v).length ≤ fuel → EndsNumeral rest →
    value depth fuel (Printer.value lines k v ++ rest) = .ok (v, rest)

theorem endsNumeral_line (k : Nat) (rest : Text) : EndsNumeral (lines.line k ++ rest) :=
  endsNumeral_cons _ (by decide)

theorem endsNumeral_items (k j : Nat) (items : List Json) (rest : Text) :
    EndsNumeral (Printer.items lines k items ++ (lines.line j ++ rest)) := by
  cases items with
  | nil => exact endsNumeral_line j rest
  | cons item items => exact endsNumeral_cons _ (by decide)

theorem skipSpace_items (k : Nat) (item : Json) (items : List Json) (rest : Text) :
    skipSpace (Printer.items lines k (item :: items) ++ rest) = .char ',' ::
      (lines.line k ++ (Printer.value lines k item ++ (Printer.items lines k items ++ rest))) := by
  simp only [Printer.items, List.append_assoc]
  exact skipSpace_cons (by decide) _

theorem skipSpace_closing {c : CodePoint} (h : isSpace c = false) (k : Nat) (rest : Text) :
    skipSpace (lines.line k ++ c :: rest) = c :: rest := by
  rw [skipSpace_line, skipSpace_cons h]

theorem items_lines {depth : Nat} (k j : Nat) {item : Json} {items : List Json} (rest : Text)
    (hregular : ∀ v ∈ item :: items, v.isRegular) (hread : ∀ v ∈ item :: items, ReadsBack depth v)
    (fuel : Nat)
    (hfuel : 2 * (Printer.value lines k item ++ Printer.items lines k items).length < fuel) :
    Parser.items depth fuel (Printer.value lines k item ++ (Printer.items lines k items ++
      (lines.line j ++ .char ']' :: rest))) = .ok (item :: items, rest) := by
  induction items generalizing item fuel with
  | nil =>
    obtain ⟨hitem, -⟩ := List.forall_mem_cons.1 hread
    rw [List.length_append] at hfuel
    obtain ⟨fuel, rfl⟩ := Nat.exists_eq_succ_of_ne_zero (Nat.ne_zero_of_lt hfuel)
    exact items_last (hitem fuel k _ (by omega) (endsNumeral_items k j [] _))
      (skipSpace_closing (by decide) j rest)
  | cons next items ih =>
    obtain ⟨hitem, hread⟩ := List.forall_mem_cons.1 hread
    obtain ⟨-, hregular⟩ := List.forall_mem_cons.1 hregular
    have hlength : (Printer.items lines k (next :: items)).length = 1 + (lines.line k).length +
        (Printer.value lines k next).length + (Printer.items lines k items).length := by
      simp only [Printer.items, List.length_append]
      rfl
    rw [List.length_append, hlength] at hfuel
    obtain ⟨fuel, rfl⟩ := Nat.exists_eq_succ_of_ne_zero (Nat.ne_zero_of_lt hfuel)
    refine items_cons (hitem fuel k _ (by omega) (endsNumeral_items k j _ _))
      (skipSpace_items k next items _) ?_
    rw [skipSpace_line, skipSpace_value (List.forall_mem_cons.1 hregular).1]
    exact ih hregular hread fuel (by rw [List.length_append]; omega)

theorem string_append (key rest : Text) : Printer.string lines key ++ rest =
    .char '"' :: (key.flatMap Printer.escape ++ .char '"' :: rest) := by
  rw [Printer.string, List.append_assoc, List.append_assoc]
  rfl

theorem skipSpace_string (key rest : Text) :
    skipSpace (Printer.string lines key ++ rest) = Printer.string lines key ++ rest := by
  rw [string_append, skipSpace_cons (by decide)]

theorem endsNumeral_members (k j : Nat) (members : List (Text × Json)) (rest : Text) :
    EndsNumeral (Printer.members lines k members ++ (lines.line j ++ rest)) := by
  cases members with
  | nil => exact endsNumeral_line j rest
  | cons m members => exact endsNumeral_cons _ (by decide)

theorem skipSpace_members (k : Nat) (key : Text) (v : Json) (members : List (Text × Json))
    (rest : Text) : skipSpace (Printer.members lines k ((key, v) :: members) ++ rest) = .char ',' ::
      (lines.line k ++ (Printer.string lines key ++ .char ':' :: .char ' ' ::
        (Printer.value lines k v ++ (Printer.members lines k members ++ rest)))) := by
  simp only [Printer.members, List.append_assoc]
  exact skipSpace_cons (by decide) _

theorem value_after_colon {depth : Nat} {v : Json} (hregular : v.isRegular)
    (hread : ReadsBack depth v) (fuel k : Nat) (hfuel : 2 * (Printer.value lines k v).length ≤ fuel)
    {rest : Text} (hrest : EndsNumeral rest) : value depth fuel
      (skipSpace (.char ' ' :: (Printer.value lines k v ++ rest))) = .ok (v, rest) :=
  (congrArg _ (skipSpace_value hregular k rest)).trans (hread fuel k rest hfuel hrest)

theorem members_lines {depth : Nat} (k j : Nat) {key : Text} {v : Json}
    {members : List (Text × Json)} (rest : Text)
    (hregular : ∀ m ∈ (key, v) :: members, m.2.isRegular)
    (hread : ∀ m ∈ (key, v) :: members, ReadsBack depth m.2) (fuel : Nat)
    (hfuel : 2 * (Printer.value lines k v ++ Printer.members lines k members).length < fuel) :
    Parser.members depth fuel (Printer.string lines key ++ .char ':' :: .char ' ' ::
      (Printer.value lines k v ++ (Printer.members lines k members ++
        (lines.line j ++ .char '\x7d' :: rest)))) = .ok ((key, v) :: members, rest) := by
  induction members generalizing key v fuel with
  | nil =>
    obtain ⟨hv, -⟩ := List.forall_mem_cons.1 hregular
    obtain ⟨hvalue, -⟩ := List.forall_mem_cons.1 hread
    rw [List.length_append] at hfuel
    obtain ⟨fuel, rfl⟩ := Nat.exists_eq_succ_of_ne_zero (Nat.ne_zero_of_lt hfuel)
    rw [string_append]
    exact members_last (string_flatMap key _) (skipSpace_cons (by decide) _)
      (value_after_colon (v := v) hv hvalue fuel k (by omega) (endsNumeral_members k j [] _))
      (skipSpace_closing (by decide) j rest)
  | cons next members ih =>
    obtain ⟨nextKey, w⟩ := next
    obtain ⟨hv, hregular⟩ := List.forall_mem_cons.1 hregular
    obtain ⟨hvalue, hread⟩ := List.forall_mem_cons.1 hread
    have hlength : (Printer.members lines k ((nextKey, w) :: members)).length =
        1 + (lines.line k).length + (Printer.string lines nextKey).length + 2 +
          (Printer.value lines k w).length + (Printer.members lines k members).length := by
      simp only [Printer.members, List.length_append]
      rfl
    rw [List.length_append, hlength] at hfuel
    obtain ⟨fuel, rfl⟩ := Nat.exists_eq_succ_of_ne_zero (Nat.ne_zero_of_lt hfuel)
    rw [string_append]
    refine members_cons (string_flatMap key _) (skipSpace_cons (by decide) _)
      (value_after_colon (v := v) hv hvalue fuel k (by omega) (endsNumeral_members k j _ _))
      (skipSpace_members k nextKey w members _) ?_
    rw [skipSpace_line, skipSpace_string]
    exact ih hregular hread fuel (by rw [List.length_append]; omega)

theorem value_arr_append (k : Nat) (item : Json) (items : List Json) (rest : Text) :
    Printer.value lines k (.arr (item :: items)) ++ rest = .char '[' :: (lines.line (k + 1) ++
      (Printer.value lines (k + 1) item ++ (Printer.items lines (k + 1) items ++
        (lines.line k ++ .char ']' :: rest)))) := by
  simp only [Printer.value, List.append_assoc]
  rfl

theorem value_obj_append (k : Nat) (key : Text) (v : Json) (members : List (Text × Json))
    (rest : Text) : Printer.value lines k (.obj ((key, v) :: members)) ++ rest = .char '\x7b' ::
      (lines.line (k + 1) ++ (Printer.string lines key ++ .char ':' :: .char ' ' ::
        (Printer.value lines (k + 1) v ++ (Printer.members lines (k + 1) members ++
          (lines.line k ++ .char '\x7d' :: rest))))) := by
  simp only [Printer.value, List.append_assoc]
  rfl

theorem readsBack_arr {depth : Nat} {items : List Json} (hregular : ∀ v ∈ items, v.isRegular)
    (hread : ∀ v ∈ items, ReadsBack depth v) : ReadsBack (depth + 1) (.arr items) := by
  intro fuel k rest hfuel hrest
  cases items with
  | nil =>
    obtain ⟨fuel, rfl⟩ := Nat.exists_eq_add_of_le' hfuel
    rfl
  | cons item items =>
    have hlength := congrArg List.length (value_arr_append k item items [])
    simp only [List.append_nil, List.length_cons, List.length_append] at hlength
    obtain ⟨fuel, rfl⟩ := Nat.exists_eq_succ_of_ne_zero (n := fuel) (by omega)
    have hitems := items_lines (k + 1) k rest hregular hread fuel
      (by rw [List.length_append]; omega)
    obtain ⟨c, cs, hc, hspace, hclosing⟩ :=
      exists_value_lines (List.forall_mem_cons.1 hregular).1 (k + 1)
    rw [hc] at hitems
    rw [value_arr_append, hc]
    exact value_arr ((skipSpace_line _ _).trans (skipSpace_cons hspace _)) hclosing hitems

theorem readsBack_obj {depth : Nat} {members : List (Text × Json)}
    (hkeys : (members.map (·.1)).Nodup) (hregular : ∀ m ∈ members, m.2.isRegular)
    (hread : ∀ m ∈ members, ReadsBack depth m.2) : ReadsBack (depth + 1) (.obj members) := by
  intro fuel k rest hfuel hrest
  cases members with
  | nil =>
    obtain ⟨fuel, rfl⟩ := Nat.exists_eq_add_of_le' hfuel
    rfl
  | cons m members =>
    obtain ⟨key, v⟩ := m
    have hlength := congrArg List.length (value_obj_append k key v members [])
    simp only [List.append_nil, List.length_cons, List.length_append] at hlength
    obtain ⟨fuel, rfl⟩ := Nat.exists_eq_succ_of_ne_zero (n := fuel) (by omega)
    have hmembers := members_lines (k + 1) k rest hregular hread fuel
      (by rw [List.length_append]; omega)
    rw [string_append] at hmembers
    rw [value_obj_append, string_append, value_obj
      ((skipSpace_line _ _).trans (skipSpace_cons (by decide) _)) hmembers, ofWritten_eq_self hkeys]

theorem readsBack {v : Json} (hlimit : v.withinLimit) (hregular : v.isRegular) {depth : Nat}
    (hdepth : v.depth ≤ depth) : ReadsBack depth v := by
  induction v using Json.induction generalizing depth with
  | null =>
    intro fuel k rest hfuel _
    obtain ⟨fuel, rfl⟩ := exists_fuel hregular hfuel
    rfl
  | bool b =>
    intro fuel k rest hfuel _
    obtain ⟨fuel, rfl⟩ := exists_fuel hregular hfuel
    cases b <;> rfl
  | int n =>
    intro fuel k rest hfuel hrest
    obtain ⟨fuel, rfl⟩ := exists_fuel hregular hfuel
    exact value_ofInt hlimit hrest depth fuel
  | float x => cases hregular
  | str s =>
    intro fuel k rest hfuel _
    obtain ⟨fuel, rfl⟩ := exists_fuel hregular hfuel
    change value depth (fuel + 1) (Printer.string lines s ++ rest) = _
    rw [string_append, value, string_flatMap]
    rfl
  -- What is within a list is read with the depth that the list leaves.
  | arr items ih =>
    obtain ⟨depth, rfl⟩ := Nat.exists_eq_add_of_le' (Nat.le_trans (Nat.le_add_left 1 _) hdepth)
    have hitems := ((every_arr_iff _ items).1 hregular).2
    exact readsBack_arr hitems fun v hv => ih v hv (((every_arr_iff _ items).1 hlimit).2 v hv)
      (hitems v hv) (depthOfItems_le_iff.1 (Nat.le_of_succ_le_succ hdepth) v hv)
  | obj members ih =>
    obtain ⟨depth, rfl⟩ := Nat.exists_eq_add_of_le' (Nat.le_trans (Nat.le_add_left 1 _) hdepth)
    obtain ⟨hkeys, hmembers⟩ := (every_obj_iff _ members).1 hregular
    exact readsBack_obj (of_decide_eq_true hkeys) hmembers fun m hm => ih m hm
      (((every_obj_iff _ members).1 hlimit).2 m hm) (hmembers m hm)
      (depthOfMembers_le_iff.1 (Nat.le_of_succ_le_succ hdepth) m hm)

end Parser

theorem parseTo_indented {v : Json} (hlimit : v.withinLimit) (hregular : v.isRegular) {depth : Nat}
    (hdepth : v.depth ≤ depth) : parseTo depth (v.indented ++ "\n") = .ok v := by
  rw [indented]
  generalize htext : Printer.value Printer.lines 0 v ++ "\n" = text
  have hfuel : 2 * (Printer.value Printer.lines 0 v).length ≤ 2 * text.length + 2 := by
    rw [← htext, List.length_append]
    omega
  have hvalue := Parser.readsBack hlimit hregular hdepth _ 0 "\n" hfuel
    (Parser.endsNumeral_cons _ (by decide))
  have hspace : Parser.skipSpace text = text := htext ▸ Parser.skipSpace_value hregular 0 "\n"
  rw [htext] at hvalue
  rw [parseTo, hspace, hvalue]
  rfl

namespace Printer

theorem isEncodable_escape {c : CodePoint} (h : c.char?.isSome) : (escape c).isEncodable := by
  unfold escape
  split
  case h_8 =>
    split
    · rfl
    · rw [Text.isEncodable, List.all_cons, h]
      rfl
  all_goals rfl

theorem isEncodable_string {s : Text} (h : s.isEncodable) : (string lines s).isEncodable := by
  have hs : Text.isEncodable (s.flatMap lines.escape) := by
    rw [Text.isEncodable, List.all_flatMap, List.all_eq_true]
    exact fun c hc => isEncodable_escape (List.all_eq_true.1 h c hc)
  simp [string, hs]

theorem isEncodable_line (k : Nat) : (lines.line k).isEncodable := by
  rw [lines, Text.isEncodable, List.all_cons, List.all_replicate]
  simp [CodePoint.char?]

theorem isEncodable_items (k : Nat) {items : List Json}
    (h : ∀ v ∈ items, (value lines k v).isEncodable) :
    (Printer.items lines k items).isEncodable := by
  induction items with
  | nil => rfl
  | cons item items ih =>
    obtain ⟨hitem, hitems⟩ := List.forall_mem_cons.1 h
    simp [Printer.items, isEncodable_line, hitem, ih hitems]

theorem isEncodable_members (k : Nat) {members : List (Text × Json)}
    (hkeys : ∀ m ∈ members, m.1.isEncodable)
    (h : ∀ m ∈ members, (value lines k m.2).isEncodable) :
    (Printer.members lines k members).isEncodable := by
  induction members with
  | nil => rfl
  | cons m members ih =>
    obtain ⟨hkey, hkeys⟩ := List.forall_mem_cons.1 hkeys
    obtain ⟨hv, hmembers⟩ := List.forall_mem_cons.1 h
    simp [Printer.members, isEncodable_line, isEncodable_string hkey, hv, ih hkeys hmembers]

theorem isEncodable_value {v : Json} (h : v.isEncodable) (k : Nat) :
    (value lines k v).isEncodable := by
  induction v using Json.induction generalizing k with
  | null => rfl
  | bool b => cases b <;> rfl
  | int n => exact Text.isEncodable_ofInt n
  | float x => simp [value, Text.isEncodable, CodePoint.char?]
  | str s => exact isEncodable_string h
  | arr items ih =>
    rw [isEncodable_arr, List.all_eq_true] at h
    have hitems : ∀ v ∈ items, (value lines (k + 1) v).isEncodable := fun v hv => ih v hv (h v hv) _
    cases items with
    | nil => rfl
    | cons item items =>
      obtain ⟨hitem, hitems⟩ := List.forall_mem_cons.1 hitems
      simp [value, isEncodable_line, hitem, isEncodable_items _ hitems]
  | obj members ih =>
    rw [isEncodable_obj, Bool.and_eq_true, List.all_eq_true, List.all_eq_true] at h
    have hmembers : ∀ m ∈ members, (value lines (k + 1) m.2).isEncodable :=
      fun m hm => ih m hm (h.2 m hm) _
    cases members with
    | nil => rfl
    | cons m members =>
      obtain ⟨hkey, hkeys⟩ := List.forall_mem_cons.1 h.1
      obtain ⟨hv, hmembers⟩ := List.forall_mem_cons.1 hmembers
      simp [value, isEncodable_line, isEncodable_string hkey, hv,
        isEncodable_members _ hkeys hmembers]

end Printer
end CardGrove.Json
