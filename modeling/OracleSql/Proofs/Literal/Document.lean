import OracleSql.Proofs.Literal.Stored
import OracleSql.Query.Render

set_option autoImplicit false

namespace OracleSql

namespace Literal.Stable

theorem append_iff {a b : List Char} (meet : ∀ c ∈ a.getLast?, ∀ d ∈ b.head?,
    folds c d = false ∧ bothQuotes c d = false) : Stable (a ++ b) ↔ Stable a ∧ Stable b := by
  constructor
  next =>
    rintro ⟨unfolded, single⟩
    rw [List.isChain_append] at unfolded single
    exact ⟨⟨unfolded.1, single.1⟩, unfolded.2.1, single.2.1⟩
  next =>
    rintro ⟨left, right⟩
    exact ⟨List.isChain_append.2 ⟨left.unfolded, right.unfolded, fun c last d first =>
        (meet c last d first).1⟩,
      List.isChain_append.2 ⟨left.single, right.single, fun c last d first =>
        (meet c last d first).2⟩⟩

theorem append_iff_of_head {a b : List Char} (h : ∀ d ∈ b.head?, isBare d = true) :
    Stable (a ++ b) ↔ Stable a ∧ Stable b := by
  -- Nothing is folded where the second part starts without a quote or a backslash.
  refine append_iff fun c _ d first => ?_
  have bare := h d first
  simp only [isBare, Bool.and_eq_true, bne_iff_ne] at bare
  simp [folds, bothQuotes, bare.1.1, bare.1.2, bare.2]

def Settles (c : Char) : Prop :=
  c ≠ '\\' ∧ c ≠ '\''

theorem append_iff_of_last {a b : List Char} (h : ∀ c ∈ a.getLast?, Settles c) :
    Stable (a ++ b) ↔ Stable a ∧ Stable b := by
  refine append_iff fun c last d _ => ?_
  obtain ⟨backslash, quote⟩ := h c last
  simp [folds, bothQuotes, backslash, quote]

theorem cons_iff {c : Char} {cs : List Char} : Stable (c :: cs) ↔
    (∀ d ∈ cs.head?, folds c d = false ∧ bothQuotes c d = false) ∧ Stable cs := by
  rw [← List.singleton_append]
  constructor
  next =>
    intro h
    have unfolded := List.isChain_cons.1 h.unfolded
    have single := List.isChain_cons.1 h.single
    exact ⟨fun d first => ⟨unfolded.1 d first, single.1 d first⟩, unfolded.2, single.2⟩
  next =>
    rintro ⟨meet, rest⟩
    exact ⟨List.isChain_cons.2 ⟨fun d first => (meet d first).1, rest.unfolded⟩,
      List.isChain_cons.2 ⟨fun d first => (meet d first).2, rest.single⟩⟩

theorem of_bare {cs : List Char} (h : ∀ c ∈ cs, isBare c = true) : Stable cs := by
  induction cs with
  | nil => exact ⟨.nil, .nil⟩
  | cons c cs ih =>
    rw [← List.singleton_append, append_iff_of_head]
    next =>
      exact ⟨⟨.singleton c, .singleton c⟩, ih fun d member => h d (List.mem_cons_of_mem c member)⟩
    next => exact fun d first => h d (List.mem_cons_of_mem c (List.mem_of_head? first))

theorem intercalate_iff {items : List String} :
    Stable (",".intercalate items).toList ↔ ∀ x ∈ items, Stable x.toList := by
  induction items with
  | nil => exact ⟨fun _ _ member => absurd member List.not_mem_nil, fun _ => ⟨.nil, .nil⟩⟩
  | cons first rest ih =>
    cases rest with
    | nil => simp
    | cons second rest =>
      have comma : ∀ c ∈ ",".toList.getLast?, Settles c := by simp [Settles]
      -- The comma keeps the first item apart from the others.
      have start : ∀ d ∈ (",".toList ++ (",".intercalate (second :: rest)).toList).head?,
          isBare d = true := by
        intro d head
        cases head
        decide
      rw [String.intercalate_cons_cons, String.toList_append, String.toList_append,
        List.append_assoc, append_iff_of_head start, append_iff_of_last comma, ih]
      constructor
      next => exact fun h => List.forall_mem_cons.2 ⟨h.1, h.2.2⟩
      next =>
        intro h
        rw [List.forall_mem_cons] at h
        exact ⟨h.1, of_bare (by decide), h.2⟩

theorem enclosed_iff (first last : Char) (settled : Settles first) (bare : isBare last = true)
    {s : List Char} : Stable (first :: s ++ [last]) ↔ Stable s := by
  have head : ∀ d ∈ [last].head?, isBare d = true := by
    intro d found
    cases found
    exact bare
  have start : ∀ c ∈ [first].getLast?, Settles c := by
    intro c found
    cases found
    exact settled
  rw [append_iff_of_head head, ← List.singleton_append, append_iff_of_last start]
  exact ⟨fun h => h.1.2, fun h => ⟨⟨⟨.singleton _, .singleton _⟩, h⟩, ⟨.singleton _, .singleton _⟩⟩⟩

end Literal.Stable

/-- Text that a document shows as it is and that escaping leaves alone. -/
structure Verbatim (s : String) : Prop where
  unescaped : ∀ c ∈ s.toList, c ≠ '"' ∧ c ≠ '\\'
  single : s.toList.IsChain fun c d => Literal.bothQuotes c d = false

instance (s : String) : Decidable (Verbatim s) :=
  decidable_of_iff ((∀ c ∈ s.toList, c ≠ '"' ∧ c ≠ '\\') ∧
      s.toList.IsChain fun c d => Literal.bothQuotes c d = false)
    ⟨fun h => ⟨h.1, h.2⟩, fun h => ⟨h.unescaped, h.single⟩⟩

open Literal (Stable)

theorem isBare_digitChar : ∀ n < 16, isBare (Nat.digitChar n) = true := by
  decide

theorem stable_escapeChar {c : Char} (h : isBare c = true) :
    Stable (Json.escapeChar c) ∧ ∀ d ∈ (Json.escapeChar c).getLast?, Stable.Settles d := by
  have settles {d : Char} (bare : isBare d = true) : Stable.Settles d := by
    simp only [isBare, Bool.and_eq_true, bne_iff_ne] at bare
    exact ⟨bare.2, bare.1.1⟩
  -- A short escape is a backslash before a letter.
  have short (d : Char) (bare : isBare d = true) :
      Stable ['\\', d] ∧ ∀ e ∈ ['\\', d].getLast?, Stable.Settles e := by
    refine ⟨(Stable.append_iff_of_head (a := ['\\']) (b := [d]) ?_).2
      ⟨⟨.singleton _, .singleton _⟩, ⟨.singleton _, .singleton _⟩⟩, ?_⟩
    next => simpa using bare
    next => simpa using settles bare
  unfold Json.escapeChar
  split
  next => cases h
  next => cases h
  next => exact short 'n' (by decide)
  next => exact short 'r' (by decide)
  next => exact short 't' (by decide)
  next => exact short 'b' (by decide)
  next => exact short 'f' (by decide)
  next =>
    split
    next small =>
      have high := isBare_digitChar (c.toNat / 16) (by omega)
      have low := isBare_digitChar (c.toNat % 16) (by omega)
      -- Of a long escape only the backslash is no bare character.
      have tail : ∀ d ∈ ['u', '0', '0', Json.hexDigit (c.toNat / 16), Json.hexDigit (c.toNat % 16)],
          isBare d = true := by
        simpa [Json.hexDigit, high, low] using by decide
      refine ⟨(Stable.append_iff_of_head (a := ['\\']) ?_).2
        ⟨⟨.singleton _, .singleton _⟩, .of_bare tail⟩, ?_⟩
      next => exact fun d first => tail d (List.mem_of_head? first)
      next => simpa [Json.hexDigit] using settles low
    next => exact ⟨⟨.singleton _, .singleton _⟩, by simpa using settles h⟩

theorem head?_escapeChars (cs : List Char) :
    (cs.flatMap Json.escapeChar ++ ['"']).head? = some '\'' ↔ cs.head? = some '\'' := by
  cases cs with
  | nil => simp
  | cons c cs =>
    rw [List.flatMap_cons, List.head?_cons, Option.some_inj, List.append_assoc]
    unfold Json.escapeChar
    split
    -- Every escape starts with a backslash, and a quote is none of the escaped characters.
    case h_8 =>
      split
      next small =>
        constructor
        next => intro same; cases same
        next => rintro rfl; exact absurd small (by decide)
      next => simp
    all_goals simp

theorem stable_quote_cons_iff {cs : List Char} :
    Stable ('\'' :: cs) ↔ cs.head? ≠ some '\'' ∧ Stable cs := by
  rw [Stable.cons_iff]
  refine and_congr_left fun _ => ⟨fun h same => ?_, fun other d first => ?_⟩
  next => exact Bool.noConfusion (h '\'' same).2
  next =>
    have differs : d ≠ '\'' := by
      rintro rfl
      exact other first
    simp [Literal.folds, Literal.bothQuotes, differs]

theorem not_stable_backslash {d : Char} (h : d = '"' ∨ d = '\\') (cs : List Char) :
    ¬Stable ('\\' :: d :: cs) := by
  intro stable
  have unfolded := (Stable.cons_iff.1 stable).1 d rfl
  obtain rfl | rfl := h <;> exact Bool.noConfusion unfolded.1

theorem stable_escapeChars_iff {cs : List Char} :
    Stable (cs.flatMap Json.escapeChar ++ ['"']) ↔
      (∀ c ∈ cs, c ≠ '"' ∧ c ≠ '\\') ∧ cs.IsChain fun c d => Literal.bothQuotes c d = false := by
  induction cs with
  | nil => exact ⟨fun _ => ⟨by simp, .nil⟩, fun _ => ⟨.singleton _, .singleton _⟩⟩
  | cons c cs ih =>
    by_cases bare : isBare c = true
    next =>
      -- A bare character settles whatever its escape is, so the rest decides.
      have escaped := stable_escapeChar bare
      simp only [isBare, Bool.and_eq_true, bne_iff_ne] at bare
      obtain ⟨⟨quote, double⟩, backslash⟩ := bare
      have apart : ∀ d ∈ cs.head?, Literal.bothQuotes c d = false := by
        simp [Literal.bothQuotes, quote]
      rw [List.flatMap_cons, List.append_assoc, List.forall_mem_cons, List.isChain_cons,
        Stable.append_iff_of_last escaped.2, ih]
      exact ⟨fun h => ⟨⟨⟨double, backslash⟩, h.2.1⟩, apart, h.2.2⟩,
        fun h => ⟨escaped.1, h.1.2, h.2.2⟩⟩
    next =>
      -- a quote depends on the next character, the other two always make a pair
      have special : c = '\'' ∨ c = '"' ∨ c = '\\' := by
        simpa [isBare, or_iff_not_imp_left] using bare
      rcases special with rfl | rfl | rfl
      next =>
        have apart : (∀ d ∈ cs.head?, Literal.bothQuotes '\'' d = false) ↔
            cs.head? ≠ some '\'' := by
          simp [Literal.bothQuotes, Option.eq_some_iff_get_eq]
        have itself : Json.escapeChar '\'' = ['\''] := rfl
        rw [List.flatMap_cons, List.append_assoc, List.forall_mem_cons, List.isChain_cons, itself,
          List.singleton_append, stable_quote_cons_iff, ih, apart, Ne, head?_escapeChars]
        exact ⟨fun h => ⟨⟨⟨by decide, by decide⟩, h.2.1⟩, h.1, h.2.2⟩,
          fun h => ⟨h.2.1, h.1.2, h.2.2⟩⟩
      next =>
        exact ⟨fun h => absurd h (not_stable_backslash (.inl rfl) _),
          fun h => absurd rfl (h.1 '"' List.mem_cons_self).1⟩
      next =>
        exact ⟨fun h => absurd h (not_stable_backslash (.inr rfl) _),
          fun h => absurd rfl (h.1 '\\' List.mem_cons_self).2⟩

theorem stable_quote_iff {s : String} : Stable (Json.quote s).toList ↔ Verbatim s := by
  have start : ∀ c ∈ ['"'].getLast?, Stable.Settles c := by simp [Stable.Settles]
  rw [Json.quote, String.toList_ofList, List.cons_append, ← List.singleton_append,
    Stable.append_iff_of_last start, stable_escapeChars_iff]
  exact ⟨fun h => ⟨h.2.1, h.2.2⟩, fun h => ⟨⟨.singleton _, .singleton _⟩, h.unescaped, h.single⟩⟩

mutual

def Value.texts : Value → List String
  | .text s => [s]
  | .array items => Value.itemTexts items
  | .object entries => Value.entryTexts entries
  | _ => []

def Value.itemTexts : List Value → List String
  | [] => []
  | item :: rest => item.texts ++ Value.itemTexts rest

def Value.entryTexts : List (String × Value) → List String
  | [] => []
  | (key, value) :: rest => key :: (value.texts ++ Value.entryTexts rest)

end

theorem verbatim_of_bare {s : String} (h : Bare s) : Verbatim s := by
  refine ⟨fun c member => ?_, (Stable.of_bare h).single⟩
  have bare := h c member
  simp only [isBare, Bool.and_eq_true, bne_iff_ne] at bare
  exact ⟨bare.1.2, bare.2⟩

theorem stable_of_no_texts {v : Value} (none : v.texts = []) (h : Stable v.toText.toList) :
    Stable v.toText.toList ↔ ∀ s ∈ v.texts, Verbatim s := by
  rw [none]
  exact ⟨fun _ _ member => absurd member List.not_mem_nil, fun _ => h⟩

theorem stable_member_iff (key text : String) :
    Stable (Json.quote key ++ ":" ++ text).toList ↔ Verbatim key ∧ Stable text.toList := by
  have colon : ∀ d ∈ ":".toList.head?, isBare d = true := by decide
  have last : ∀ c ∈ ((Json.quote key).toList ++ ":".toList).getLast?, Stable.Settles c := by
    intro c found
    rw [List.getLast?_append] at found
    cases found
    exact ⟨by decide, by decide⟩
  rw [String.toList_append, String.toList_append, Stable.append_iff_of_last last,
    Stable.append_iff_of_head colon, stable_quote_iff]
  exact and_congr_left fun _ => and_iff_left (.of_bare (by decide))

mutual

theorem stable_toText_iff : ∀ v : Value, Stable v.toText.toList ↔ ∀ s ∈ v.texts, Verbatim s
  | .null => stable_of_no_texts rfl (.of_bare (by decide))
  | .bool b => stable_of_no_texts rfl (by cases b <;> exact .of_bare (by decide))
  | .int n => stable_of_no_texts rfl (.of_bare (bare_toString_int n))
  | .float x => by
      refine stable_of_no_texts rfl (.of_bare ?_)
      unfold Value.toText Value.toJson
      split
      next => exact Json.bare_floatText x
      next => decide
  | .text s => by
      rw [Value.texts, List.forall_mem_singleton]
      exact stable_quote_iff
  | .instant t => stable_of_no_texts rfl (stable_quote_iff.2 (verbatim_of_bare (bare_isoText t)))
  | .blob bytes => stable_of_no_texts rfl (stable_quote_iff.2 (verbatim_of_bare (bare_hex bytes)))
  | .array items => by
      have body := stable_items_iff items
      rw [← Stable.intercalate_iff] at body
      rw [Value.texts, ← body, Value.toText, Value.toJson, Json.print]
      simpa using Stable.enclosed_iff '[' ']' ⟨by decide, by decide⟩ (by decide)
  | .object entries => by
      have body := stable_entries_iff entries
      rw [← Stable.intercalate_iff] at body
      rw [Value.texts, ← body, Value.toText, Value.toJson, Json.print]
      simpa using Stable.enclosed_iff '{' '}' ⟨by decide, by decide⟩ (by decide)

theorem stable_items_iff : ∀ items : List Value,
    (∀ x ∈ Json.printItems (Value.itemsToJson items), Stable x.toList) ↔
      ∀ s ∈ Value.itemTexts items, Verbatim s
  | [] => ⟨fun _ _ member => absurd member List.not_mem_nil,
      fun _ _ member => absurd member List.not_mem_nil⟩
  | item :: rest => by
      rw [Value.itemsToJson, Json.printItems, Value.itemTexts, List.forall_mem_cons,
        List.forall_mem_append, stable_items_iff rest]
      exact and_congr_left fun _ => stable_toText_iff item

theorem stable_entries_iff : ∀ entries : List (String × Value),
    (∀ x ∈ Json.printEntries (Value.entriesToJson entries), Stable x.toList) ↔
      ∀ s ∈ Value.entryTexts entries, Verbatim s
  | [] => ⟨fun _ _ member => absurd member List.not_mem_nil,
      fun _ _ member => absurd member List.not_mem_nil⟩
  | (key, value) :: rest => by
      rw [Value.entriesToJson, Json.printEntries, Value.entryTexts, List.forall_mem_cons,
        List.forall_mem_cons, List.forall_mem_append, stable_entries_iff rest, stable_member_iff,
        and_assoc]
      exact and_congr_right fun _ => and_congr_left fun _ => stable_toText_iff value

end

def Value.isDocument : Value → Bool
  | .array items => !items.any Value.isObject
  | .object _ => true
  | _ => false

theorem isClosed_eq_false {c : Char} {s : String} (first : s.toList.head? = some c)
    (other : c ≠ '\'') : Literal.isClosed s.toList = false := by
  obtain ⟨rest, parts⟩ := List.head?_eq_some_iff.1 first
  rw [parts, Literal.isClosed]
  split
  next inner =>
    rw [Literal.inner?] at inner
    next => cases inner
    next => exact fun _ same => other (List.cons.inj same).1
  next => rfl

theorem isClosed_array (items : List Value) :
    Literal.isClosed (Value.array items).toText.toList = false :=
  isClosed_eq_false (c := '[') (by simp [Value.toText, Value.toJson, Json.print]) (by decide)

theorem isClosed_object (entries : List (String × Value)) :
    Literal.isClosed (Value.object entries).toText.toList = false :=
  isClosed_eq_false (c := '{') (by simp [Value.toText, Value.toJson, Json.print]) (by decide)

theorem decode_toText_iff {v : Value} (h : Literal.isClosed v.toText.toList = false) :
    Literal.decode (Literal.escapeText v.toText) = some v.toText ↔ ∀ t ∈ v.texts, Verbatim t :=
  (Literal.decode_escapeText_iff h).trans (stable_toText_iff v)

/-- The engine stores the document that was given exactly when no text and no key in it holds a
double quote, a backslash or two single quotes in a row. -/
theorem decode_document_iff (s : Settings) (offset : Int) (v : Value) :
    (v.isDocument = true →
      (Literal.decode (Literal.escape offset v) = some v.toText ↔ ∀ t ∈ v.texts, Verbatim t)) ∧
    ∀ items, v = .array items → ∃ sql, (Call.jsonArray (.value v)).render s = .ok sql ∧
      (Literal.decode sql = some v.toText ↔ ∀ t ∈ v.texts, Verbatim t) := by
  constructor
  next =>
    intro document
    cases v with
    | array items =>
      -- Without objects among the items the literal is that of the whole document.
      have plain : items.any Value.isObject = false := by simpa [Value.isDocument] using document
      have literal : Literal.escape offset (.array items) =
          Literal.escapeText (Value.array items).toText := by
        rw [Literal.escape, Literal.ofValue, plain]
        rfl
      rw [literal]
      exact decode_toText_iff (isClosed_array items)
    | object entries => exact decode_toText_iff (isClosed_object entries)
    | _ => cases document
  next =>
    rintro items rfl
    exact ⟨_, rfl, decode_toText_iff (isClosed_array items)⟩

theorem decode_document_quote : Literal.decode (Literal.escape 0 (.array [.text "it's"])) =
    some (Value.array [.text "it's"]).toText :=
  ((decode_document_iff (.default 0) 0 (.array [.text "it's"])).1 (by decide)).2 (by decide)

theorem decode_document_double_quote :
    Literal.decode (Literal.escape 0 (.object [("a", .text "x\"y")])) = some "\x7b\"a\":\"x\"y\"\x7d" ∧
      (Value.object [("a", .text "x\"y")]).toText = "\x7b\"a\":\"x\\\"y\"\x7d" := by
  decide +kernel

end OracleSql
