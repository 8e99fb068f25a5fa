import OracleSql.Name
import OracleSql.Proofs.Sql.Bare
import OracleSql.Proofs.Sql.Token

set_option autoImplicit false

namespace OracleSql.Sql

/-- Both texts end outside of quotes, and they differ at most between quotes. -/
def Alike (a b : String) : Prop :=
  ∃ ts us, scan a.toList = some ts ∧ scan b.toList = some us ∧
    ts.map Token.blank = us.map Token.blank

theorem Alike.symm {a b : String} (h : Alike a b) : Alike b a := by
  obtain ⟨ts, us, ha, hb, same⟩ := h
  exact ⟨us, ts, hb, ha, same.symm⟩

theorem Alike.trans {a b c : String} (h : Alike a b) (k : Alike b c) : Alike a c := by
  obtain ⟨ts, us, ha, hb, same⟩ := h
  obtain ⟨us', vs, hb', hc, same'⟩ := k
  rw [hb] at hb'
  cases hb'
  exact ⟨ts, vs, ha, hc, same.trans same'⟩

def IsPlain (c : Char) : Prop :=
  quoted? c = none

instance (c : Char) : Decidable (IsPlain c) :=
  inferInstanceAs (Decidable (quoted? c = none))

def StartsPlain (s : String) : Prop :=
  ∀ c ∈ s.toList.head?, IsPlain c

def EndsPlain (s : String) : Prop :=
  ∀ c ∈ s.toList.getLast?, IsPlain c

def Closed (s : String) : Prop :=
  (scan s.toList).isSome = true

instance (s : String) : Decidable (StartsPlain s) :=
  inferInstanceAs (Decidable (∀ c ∈ s.toList.head?, IsPlain c))

instance (s : String) : Decidable (EndsPlain s) :=
  inferInstanceAs (Decidable (∀ c ∈ s.toList.getLast?, IsPlain c))

instance (s : String) : Decidable (Closed s) :=
  inferInstanceAs (Decidable ((scan s.toList).isSome = true))

theorem alike_self_iff {s : String} : Alike s s ↔ Closed s := by
  constructor
  next =>
    rintro ⟨ts, us, h, -, -⟩
    simp [Closed, h]
  next =>
    intro closed
    obtain ⟨ts, h⟩ := Option.isSome_iff_exists.1 closed
    exact ⟨ts, ts, h, h, rfl⟩

theorem Closed.alike {s : String} (h : Closed s) : Alike s s :=
  alike_self_iff.2 h

theorem StartsPlain.append {a b : String} (ha : StartsPlain a) (hb : StartsPlain b) :
    StartsPlain (a ++ b) := by
  intro c first
  rw [String.toList_append, List.head?_append] at first
  cases h : a.toList.head? with
  | none => exact hb c (by simpa [h] using first)
  | some d => exact ha c (by simpa [h] using first)

theorem startsPlain_append_of_ne {a : String} (b : String) (ha : StartsPlain a) (some : a ≠ "") :
    StartsPlain (a ++ b) := by
  intro c first
  rw [String.toList_append, List.head?_append_of_ne_nil _ (by simpa using some)] at first
  exact ha c first

theorem endsPlain_append_of_ne (a : String) {b : String} (hb : EndsPlain b) (some : b ≠ "") :
    EndsPlain (a ++ b) := by
  intro c last
  rw [String.toList_append, List.getLast?_append_of_ne_nil _ (by simpa using some)] at last
  exact hb c last

theorem apart_of_startsPlain {s : String} {us : List Token} (written : Written s.toList us)
    (plain : StartsPlain s) (t : Token) : ∀ u ∈ us.head?, t.Apart u := by
  -- The first token starts with the first character.
  intro u first
  cases us with
  | nil => cases first
  | cons v us =>
    cases first
    cases u with
    | plain c => cases t <;> trivial
    | quoted kind content =>
      have starts : s.toList.head? = some kind.mark := by
        rw [← written.text_eq]
        simp [Token.text]
      have impossible := plain kind.mark starts
      simp [IsPlain] at impossible

theorem getLast?_text_quoted (front : List Token) (kind : Quoted) (content : List Char) :
    (text (front ++ [.quoted kind content])).getLast? = some kind.mark := by
  have shape : text (front ++ [.quoted kind content]) =
      text front ++ (kind.mark :: doubled kind content) ++ [kind.mark] := by
    simp [text, Token.text]
  rw [shape, List.getLast?_concat]

theorem apart_of_endsPlain {s : String} {ts : List Token} (written : Written s.toList ts)
    (plain : EndsPlain s) : ∀ t ∈ ts.getLast?, ∀ u : Token, t.Apart u := by
  -- The last token ends with the last character.
  intro t last u
  rcases List.eq_nil_or_concat ts with rfl | ⟨front, v, rfl⟩
  next => cases last
  next =>
    have same : v = t := by simpa using last
    subst same
    cases v with
    | plain c => trivial
    | quoted kind content =>
      have ends : s.toList.getLast? = some kind.mark := by
        rw [← written.text_eq, List.concat_eq_append, getLast?_text_quoted]
      have impossible := plain kind.mark ends
      simp [IsPlain] at impossible

theorem Written.append {a b : List Char} {ts us : List Token} (ha : Written a ts)
    (hb : Written b us) (meet : ∀ t ∈ ts.getLast?, ∀ u ∈ us.head?, t.Apart u) :
    Written (a ++ b) (ts ++ us) := by
  refine ⟨by rw [text_append, ha.text_eq, hb.text_eq], ?_, ?_⟩
  next =>
    intro t member
    exact (List.mem_append.1 member).elim (ha.proper t) (hb.proper t)
  next => exact List.isChain_append.2 ⟨ha.apart, hb.apart, meet⟩

theorem Alike.append_of_apart {a b c d : String} (h : Alike a b) (k : Alike c d)
    (meet : EndsPlain a ∧ EndsPlain b ∨ StartsPlain c ∧ StartsPlain d) :
    Alike (a ++ c) (b ++ d) := by
  obtain ⟨ts, us, ha, hb, same⟩ := h
  obtain ⟨ts', us', hc, hd, same'⟩ := k
  rw [scan_eq_some_iff] at ha hb hc hd
  refine ⟨ts ++ ts', us ++ us', ?_, ?_, by simp [same, same']⟩
  next =>
    rw [String.toList_append, scan_eq_some_iff]
    refine ha.append hc fun t last u first => ?_
    rcases meet with ⟨plain, -⟩ | ⟨plain, -⟩
    next => exact apart_of_endsPlain ha plain t last u
    next => exact apart_of_startsPlain hc plain t u first
  next =>
    rw [String.toList_append, scan_eq_some_iff]
    refine hb.append hd fun t last u first => ?_
    rcases meet with ⟨-, plain⟩ | ⟨-, plain⟩
    next => exact apart_of_endsPlain hb plain t last u
    next => exact apart_of_startsPlain hd plain t u first

structure Opening (s : String) : Prop where
  closed : Closed s
  plain : EndsPlain s

structure Closing (s : String) : Prop where
  closed : Closed s
  plain : StartsPlain s

structure Separator (s : String) : Prop where
  opening : Opening s
  closing : Closing s
  some : s ≠ ""

instance (s : String) : Decidable (Opening s) :=
  decidable_of_iff (Closed s ∧ EndsPlain s) ⟨fun h => ⟨h.1, h.2⟩, fun h => ⟨h.closed, h.plain⟩⟩

instance (s : String) : Decidable (Closing s) :=
  decidable_of_iff (Closed s ∧ StartsPlain s) ⟨fun h => ⟨h.1, h.2⟩, fun h => ⟨h.closed, h.plain⟩⟩

instance (s : String) : Decidable (Separator s) :=
  decidable_of_iff (Opening s ∧ Closing s ∧ s ≠ "")
    ⟨fun h => ⟨h.1, h.2.1, h.2.2⟩, fun h => ⟨h.opening, h.closing, h.some⟩⟩

namespace Alike

variable {a b c d : String}

theorem after (h : Alike a b) {before : String} (opening : Opening before) :
    Alike (before ++ a) (before ++ b) :=
  opening.closed.alike.append_of_apart h (.inl ⟨opening.plain, opening.plain⟩)

theorem before (h : Alike a b) {after : String} (closing : Closing after) :
    Alike (a ++ after) (b ++ after) :=
  h.append_of_apart closing.closed.alike (.inr ⟨closing.plain, closing.plain⟩)

theorem around (h : Alike a b) {before after : String} (opening : Opening before)
    (closing : Closing after) : Alike (before ++ a ++ after) (before ++ b ++ after) :=
  (h.after opening).before closing

theorem between (h : Alike a b) (k : Alike c d) {separator : String}
    (separates : Separator separator) : Alike (a ++ separator ++ c) (b ++ separator ++ d) :=
  (h.before separates.closing).append_of_apart k
    (.inl ⟨endsPlain_append_of_ne a separates.opening.plain separates.some,
      endsPlain_append_of_ne b separates.opening.plain separates.some⟩)

theorem intercalate {xs ys : List String} (h : List.Forall₂ Alike xs ys) {separator : String}
    (separates : Separator separator) :
    Alike (separator.intercalate xs) (separator.intercalate ys) := by
  induction h with
  | nil => simpa using (by decide : Closed "").alike
  | @cons x y xs ys first rest ih =>
    cases rest with
    | nil => simpa using first
    | cons _ _ =>
      rw [String.intercalate_cons_cons, String.intercalate_cons_cons]
      exact first.between ih separates

theorem head?_eq (h : Alike a b) {p : Char} (plain : IsPlain p) (first : a.toList.head? = some p) :
    b.toList.head? = some p := by
  obtain ⟨ts, us, ha, hb, same⟩ := h
  rw [scan_eq_some_iff] at ha hb
  rw [← ha.text_eq] at first
  rw [← hb.text_eq]
  cases ts with
  | nil => simp [text] at first
  | cons t ts =>
    cases us with
    | nil => simp at same
    | cons u us =>
      simp only [List.map_cons, List.cons.injEq] at same
      cases t with
      | plain c =>
        cases u with
        | plain d => simp_all [Token.text, Token.blank]
        | quoted => simp [Token.blank] at same
      | quoted kind content =>
        simp only [text_cons, Token.text, List.cons_append, List.head?_cons, Option.some.injEq]
          at first
        simp [IsPlain, ← first] at plain

theorem getLast?_eq (h : Alike a b) {p : Char} (plain : IsPlain p)
    (last : a.toList.getLast? = some p) : b.toList.getLast? = some p := by
  obtain ⟨ts, us, ha, hb, same⟩ := h
  rw [scan_eq_some_iff] at ha hb
  rw [← ha.text_eq] at last
  rw [← hb.text_eq]
  rcases List.eq_nil_or_concat ts with rfl | ⟨front, t, rfl⟩
  next => simp [text] at last
  next =>
    rcases List.eq_nil_or_concat us with rfl | ⟨front', u, rfl⟩
    next => simp at same
    next =>
      simp only [List.concat_eq_append, List.map_append, List.map_cons, List.map_nil,
        List.append_singleton_inj] at same
      cases t with
      | plain c =>
        cases u with
        | plain d => simp_all [text, Token.text, Token.blank]
        | quoted => simp [Token.blank] at same
      | quoted kind content =>
        rw [List.concat_eq_append, getLast?_text_quoted, Option.some.injEq] at last
        simp [IsPlain, ← last] at plain

end Alike

theorem scan_of_plain {cs : List Char} (h : ∀ c ∈ cs, IsPlain c) :
    scan cs = some (cs.map Token.plain) := by
  have written : Written cs (cs.map Token.plain) := by
    refine ⟨by simp [text, Token.text, List.flatMap_map], ?_, ?_⟩
    next =>
      intro t member
      obtain ⟨c, inside, rfl⟩ := List.mem_map.1 member
      simpa [Token.isProper, IsPlain] using h c inside
    next =>
      rw [List.isChain_map]
      exact (List.pairwise_of_forall fun _ _ => trivial).isChain
  exact scan_eq_some_iff.2 written

theorem isPlain_of_isBare {c : Char} (h : isBare c = true) : IsPlain c := by
  simp only [isBare, Bool.and_eq_true, bne_iff_ne] at h
  simp [IsPlain, quoted?, h.1.1, h.1.2]

theorem closing_of_plain {s : String} (h : ∀ c ∈ s.toList, IsPlain c) : Closing s :=
  ⟨by simp [Closed, scan_of_plain h], fun c first => h c (List.mem_of_head? first)⟩

theorem closing_of_bare {s : String} (h : Bare s) : Closing s :=
  closing_of_plain fun c member => isPlain_of_isBare (h c member)

end OracleSql.Sql
