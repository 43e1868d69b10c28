import SampleForge.Json.Printer
import SampleForge.Json.Reader

/-!
# The tokens of a printed value

A value has tokens (`Value.tokens`), and both layouts write it in characters that *spell* them
(`Spells`): between two tokens, the lexer takes these characters for those tokens.  A word goes on
until another kind of character follows, so it is spelled only in front of such a character
(`Clear`).  Texts and marks end by themselves.

So a text that was printed is cut into the tokens of the value (`lex_compact`, `lex_pretty`).  This
is shown of *plain* values: they hold no numbers, and no object in them names a field twice.
-/

namespace SampleForge.Json

open SampleForge.Text (digitChar hexValue? padded)

/-! ## Values and their tokens -/

/-- Values without numbers, whose objects name no field twice. -/
inductive Value.Plain : Value → Prop where
  | null : Plain .null
  | bool (b : Bool) : Plain (.bool b)
  | text (s : String) : Plain (.text s)
  | list {items : List Value} (h : ∀ v ∈ items, Plain v) : Plain (.list items)
  | object {fields : List (String × Value)} (hnames : (fields.map (·.1)).Nodup)
      (h : ∀ field ∈ fields, Plain field.2) : Plain (.object fields)

mutual

/-- The tokens of a value. -/
def Value.tokens : Value → List Token
| .list [] => [.openList, .closeList]
| .object [] => [.openObject, .closeObject]
| .list (v :: rest) => .openList :: (v.tokens ++ laterItems rest ++ [.closeList])
| .object ((k, v) :: rest) =>
    .openObject :: .text k :: .colon :: (v.tokens ++ laterFields rest ++ [.closeObject])
| .text s => [.text s]
| .null => [.word .null]
| .bool b => [.word (.bool b)]
| .int n => [.word (.int n)]
| .real x => [.word (.real x)]

/-- The tokens of the later members of a list, each after a comma. -/
def laterItems : List Value → List Token
| [] => []
| v :: rest => .comma :: (v.tokens ++ laterItems rest)

/-- The tokens of the later fields of an object, each after a comma. -/
def laterFields : List (String × Value) → List Token
| [] => []
| (k, v) :: rest => .comma :: .text k :: .colon :: (v.tokens ++ laterFields rest)

end

/-! ## Spelling -/

/-- Characters that do not go on with a word. -/
def Clear (cs : List Char) : Prop := ∀ c ∈ cs.head?, isWordChar c = false

/-- Characters that the lexer takes for the given tokens, unless a word goes on behind them. -/
def Spells (cs : List Char) (ts : List Token) : Prop :=
  ∀ (tokens : List Token) (rest : List Char), Clear rest →
    lexFrom .between tokens (cs ++ rest) = lexFrom .between (ts.reverse ++ tokens) rest

theorem clear_nil : Clear [] := nofun

theorem clear_cons {c : Char} (h : isWordChar c = false) (cs : List Char) : Clear (c :: cs) := by
  rintro _ ⟨⟩
  exact h

theorem Clear.append {as bs : List Char} (ha : Clear as) (hb : Clear bs) : Clear (as ++ bs) := by
  cases as with
  | nil => exact hb
  | cons a as => exact ha

namespace Spells

variable {as bs cs : List Char} {ts us : List Token}

theorem nil : Spells [] [] := fun _ _ _ => rfl

theorem append (ha : Spells as ts) (hb : Spells bs us) (hclear : Clear bs) :
    Spells (as ++ bs) (ts ++ us) := by
  intro tokens rest hrest
  rw [List.append_assoc, ha _ _ (hclear.append hrest), hb _ _ hrest, List.reverse_append,
    List.append_assoc]

theorem cons_mark {c : Char} {t : Token} (hmark : mark? c = some t) (h : Spells cs ts) :
    Spells (c :: cs) (t :: ts) := by
  intro tokens rest hrest
  have hstep : stepBetween tokens c = some (.between, t :: tokens) := by
    unfold mark? at hmark
    split at hmark
    all_goals cases hmark
    all_goals rfl
  rw [List.cons_append, lexFrom, lexStep, hstep]
  simpa using h (t :: tokens) rest hrest

theorem cons_gap {c : Char} (hgap : isGap c = true) (h : Spells cs ts) : Spells (c :: cs) ts := by
  intro tokens rest hrest
  rw [List.cons_append, lexFrom, lexStep, stepBetween, if_pos hgap]
  exact h tokens rest hrest

end Spells

/-! ### Words -/

theorem lexFrom_word (seen : List Char) {v : Value} (hword : word? seen.reverse = some v)
    (tokens : List Token) {rest : List Char} (hrest : Clear rest) :
    lexFrom (.word seen) tokens rest = lexFrom .between (.word v :: tokens) rest := by
  cases rest with
  | nil => simp [lexFrom, hword]
  | cons c rest =>
    have hc : isWordChar c = false := hrest c rfl
    simp [lexFrom, lexStep, hc, hword]

theorem spells_null : Spells "null".toList [.word .null] := fun tokens _ hrest =>
  lexFrom_word ['l', 'l', 'u', 'n'] rfl tokens hrest

theorem spells_bool (b : Bool) : Spells (Value.bool b).compact.toList [.word (.bool b)] := by
  intro tokens rest hrest
  cases b with
  | false => exact lexFrom_word ['e', 's', 'l', 'a', 'f'] rfl tokens hrest
  | true => exact lexFrom_word ['e', 'u', 'r', 't'] rfl tokens hrest

/-! ### Texts -/

theorem hexValue?_digitChar (n : Nat) : hexValue? (digitChar n) = some (n % 16) := by
  have hdigits : ∀ d < 16, hexValue? (Nat.digitChar d) = some d := by decide
  exact hdigits (n % 16) (Nat.mod_lt n (by decide))

theorem lexFrom_unit_digit (seen : List Char) (left value n : Nat) (tokens : List Token)
    (rest : List Char) :
    lexFrom (.unit seen none (left + 2) value) tokens (digitChar n :: rest) =
      lexFrom (.unit seen none (left + 1) (16 * value + n % 16)) tokens rest := by
  simp [lexFrom, lexStep, stepText, hexValue?_digitChar]

theorem lexFrom_unit_last {seen : List Char} {value n : Nat} (h : 16 * value + n % 16 < 0xD800)
    (tokens : List Token) (rest : List Char) :
    lexFrom (.unit seen none 1 value) tokens (digitChar n :: rest) =
      lexFrom (.text (Char.ofNat (16 * value + n % 16) :: seen)) tokens rest := by
  have hhigh : ¬ 0xD800 ≤ 16 * value + n % 16 := Nat.not_le.2 h
  have hlow : ¬ 0xDC00 ≤ 16 * value + n % 16 := by omega
  simp [lexFrom, lexStep, stepText, hexValue?_digitChar, afterUnit, hhigh, hlow]

/-- An escape of four digits stands for the character with that number. -/
theorem lexFrom_unit {n : Nat} (hn : n < 0xD800) (seen : List Char) (tokens : List Token)
    (rest : List Char) :
    lexFrom (.unit seen none 4 0) tokens (padded 16 4 n ++ rest) =
      lexFrom (.text (Char.ofNat n :: seen)) tokens rest := by
  have hvalue : 16 * (16 * (16 * (16 * 0 + n / 16 / 16 / 16 % 16 % 16) + n / 16 / 16 % 16 % 16) +
      n / 16 % 16 % 16) + n % 16 % 16 = n := by omega
  simp only [padded, List.nil_append, List.cons_append]
  rw [lexFrom_unit_digit, lexFrom_unit_digit, lexFrom_unit_digit, lexFrom_unit_last, hvalue]
  omega

theorem lexFrom_escapeChar (c : Char) (seen : List Char) (tokens : List Token)
    (rest : List Char) :
    lexFrom (.text seen) tokens (escapeChar c ++ rest) =
      lexFrom (.text (c :: seen)) tokens rest := by
  unfold escapeChar
  split
  case h_8 _ hquote hbackslash _ _ _ _ _ =>
    split
    · rename_i hcontrol
      have hunit := lexFrom_unit (n := c.toNat) (by omega) seen tokens rest
      rw [Char.ofNat_toNat] at hunit
      exact hunit
    · rename_i hshown
      rw [List.singleton_append, lexFrom, lexStep, if_neg hquote, stepText, if_neg hbackslash,
        if_neg hshown]
      rfl
  all_goals rfl

theorem lexFrom_escaped (cs seen : List Char) (tokens : List Token) (rest : List Char) :
    lexFrom (.text seen) tokens (cs.flatMap escapeChar ++ '"' :: rest) =
      lexFrom .between (.text (String.ofList (seen.reverse ++ cs)) :: tokens) rest := by
  induction cs generalizing seen with
  | nil => simp [lexFrom, lexStep]
  | cons c cs ih =>
    rw [List.flatMap_cons, List.append_assoc, lexFrom_escapeChar, ih]
    simp

theorem Spells.quote_append {cs : List Char} {ts : List Token} (s : String) (h : Spells cs ts) :
    Spells ((quoteText s).toList ++ cs) (.text s :: ts) := by
  intro tokens rest hrest
  have hchars : (quoteText s).toList ++ cs ++ rest =
      '"' :: (s.toList.flatMap escapeChar ++ '"' :: (cs ++ rest)) := by
    simp [quoteText]
  have hopen : ∀ cs, lexFrom .between tokens ('"' :: cs) = lexFrom (.text []) tokens cs :=
    fun cs => rfl
  rw [hchars, hopen, lexFrom_escaped]
  simpa using h (.text s :: tokens) rest hrest

/-! ## On one line -/

theorem clear_comma (cs : List Char) : Clear (',' :: cs) := clear_cons rfl cs

theorem spells_compactItems {v : Value} {rest : List Value}
    (h : ∀ w ∈ v :: rest, Spells w.compact.toList w.tokens) :
    Spells (compactItems (v :: rest)).toList (v.tokens ++ laterItems rest) := by
  induction rest generalizing v with
  | nil => simpa [compactItems, laterItems] using h v List.mem_cons_self
  | cons w rest ih =>
    obtain ⟨hv, hrest⟩ := List.forall_mem_cons.1 h
    have hlater : Spells (',' :: (compactItems (w :: rest)).toList) (laterItems (w :: rest)) :=
      (ih hrest).cons_mark rfl
    simpa [compactItems] using hv.append hlater (clear_comma _)

theorem spells_compactFields {k : String} {v : Value} {rest : List (String × Value)}
    (h : ∀ field ∈ (k, v) :: rest, Spells field.2.compact.toList field.2.tokens) :
    Spells (compactFields ((k, v) :: rest)).toList
      (.text k :: .colon :: (v.tokens ++ laterFields rest)) := by
  induction rest generalizing k v with
  | nil =>
    have hv : Spells v.compact.toList v.tokens := h (k, v) List.mem_cons_self
    have hfield : Spells (':' :: v.compact.toList) (.colon :: v.tokens) := hv.cons_mark rfl
    simpa [compactFields, laterFields] using hfield.quote_append k
  | cons field rest ih =>
    obtain ⟨l, w⟩ := field
    obtain ⟨hv, hrest⟩ := List.forall_mem_cons.1 h
    have hlater : Spells (',' :: (compactFields ((l, w) :: rest)).toList)
        (laterFields ((l, w) :: rest)) := (ih hrest).cons_mark rfl
    have hfield :
        Spells (':' :: (v.compact.toList ++ ',' :: (compactFields ((l, w) :: rest)).toList))
          (.colon :: (v.tokens ++ laterFields ((l, w) :: rest))) :=
      (hv.append hlater (clear_comma _)).cons_mark rfl
    simpa [compactFields] using hfield.quote_append k

/-- A value on one line is written in characters that spell its tokens. -/
theorem Value.Plain.spells_compact {v : Value} (h : v.Plain) :
    Spells v.compact.toList v.tokens := by
  induction h with
  | null => exact spells_null
  | bool b => exact spells_bool b
  | text s => simpa [compact, tokens] using Spells.nil.quote_append s
  | @list items _ ih =>
    have hend : Spells [']'] [.closeList] := Spells.nil.cons_mark rfl
    cases items with
    | nil => simpa [compact, compactItems, tokens] using hend.cons_mark (c := '[') rfl
    | cons v rest =>
      have hitems := (spells_compactItems ih).append hend (clear_cons rfl [])
      simpa [compact, tokens] using hitems.cons_mark (c := '[') rfl
  | @object fields _ _ ih =>
    have hend : Spells ['\x7d'] [.closeObject] := Spells.nil.cons_mark rfl
    cases fields with
    | nil => simpa [compact, compactFields, tokens] using hend.cons_mark (c := '\x7b') rfl
    | cons field rest =>
      have hfields := (spells_compactFields ih).append hend (clear_cons rfl [])
      simpa [compact, tokens] using hfields.cons_mark (c := '\x7b') rfl

/-! ## Over several lines -/

theorem Spells.gaps_append {gaps cs : List Char} {ts : List Token}
    (hgaps : ∀ c ∈ gaps, isGap c = true) (h : Spells cs ts) : Spells (gaps ++ cs) ts := by
  induction gaps with
  | nil => exact h
  | cons c gaps ih =>
    obtain ⟨hc, hrest⟩ := List.forall_mem_cons.1 hgaps
    exact (ih hrest).cons_gap hc

theorem toList_newline (depth : Nat) :
    (newline depth).toList = '\n' :: List.replicate (2 * depth) ' ' := by
  simp [newline]

theorem Spells.newline_append {cs : List Char} {ts : List Token} (depth : Nat) (h : Spells cs ts) :
    Spells ((newline depth).toList ++ cs) ts := by
  refine h.gaps_append fun c hc => ?_
  rw [toList_newline] at hc
  rcases List.mem_cons.1 hc with rfl | hc
  · rfl
  · rw [List.eq_of_mem_replicate hc]
    rfl

theorem clear_newline (depth : Nat) (cs : List Char) : Clear ((newline depth).toList ++ cs) := by
  rw [toList_newline]
  exact clear_cons rfl _

theorem clear_prettyItems (depth : Nat) (items : List Value) :
    Clear (prettyItems depth items).toList := by
  cases items with
  | nil => exact clear_nil
  | cons v rest => simpa [prettyItems] using clear_comma _

theorem clear_prettyFields (depth : Nat) (fields : List (String × Value)) :
    Clear (prettyFields depth fields).toList := by
  cases fields with
  | nil => exact clear_nil
  | cons field rest => simpa [prettyFields] using clear_comma _

theorem spells_prettyItems {depth : Nat} {items : List Value}
    (h : ∀ v ∈ items, Spells (v.prettyAt depth).toList v.tokens) :
    Spells (prettyItems depth items).toList (laterItems items) := by
  induction items with
  | nil => exact Spells.nil
  | cons v rest ih =>
    obtain ⟨hv, hrest⟩ := List.forall_mem_cons.1 h
    have hitems := hv.append (ih hrest) (clear_prettyItems depth rest)
    simpa [prettyItems, laterItems] using (hitems.newline_append depth).cons_mark (c := ',') rfl

/-- A field is written as its name, a colon, a space and its value. -/
theorem Spells.field {cs : List Char} {ts : List Token} (k : String) (h : Spells cs ts) :
    Spells ((quoteText k).toList ++ ':' :: ' ' :: cs) (.text k :: .colon :: ts) :=
  ((h.cons_gap rfl).cons_mark rfl).quote_append k

theorem spells_prettyFields {depth : Nat} {fields : List (String × Value)}
    (h : ∀ field ∈ fields, Spells (field.2.prettyAt depth).toList field.2.tokens) :
    Spells (prettyFields depth fields).toList (laterFields fields) := by
  induction fields with
  | nil => exact Spells.nil
  | cons field rest ih =>
    obtain ⟨k, v⟩ := field
    obtain ⟨hv, hrest⟩ := List.forall_mem_cons.1 h
    have hfields := (hv.append (ih hrest) (clear_prettyFields depth rest)).field k
    simpa [prettyFields, laterFields] using (hfields.newline_append depth).cons_mark (c := ',') rfl

/-- A value over several lines is written in characters that spell its tokens. -/
theorem Value.Plain.spells_prettyAt {v : Value} (h : v.Plain) (depth : Nat) :
    Spells (v.prettyAt depth).toList v.tokens := by
  induction h generalizing depth with
  | null => exact spells_null
  | bool b => exact spells_bool b
  | text s => simpa [prettyAt, tokens] using Spells.nil.quote_append s
  | @list items _ ih =>
    have hend : Spells [']'] [.closeList] := Spells.nil.cons_mark rfl
    cases items with
    | nil => simpa [prettyAt, tokens] using hend.cons_mark (c := '[') rfl
    | cons v rest =>
      obtain ⟨hv, hrest⟩ := List.forall_mem_cons.1 ih
      have hlater :
          Spells ((prettyItems (depth + 1) rest).toList ++ ((newline depth).toList ++ [']']))
            (laterItems rest ++ [.closeList]) :=
        (spells_prettyItems fun w hw => hrest w hw (depth + 1)).append (hend.newline_append depth)
          (clear_newline depth _)
      have hitems := (hv (depth + 1)).append hlater
        ((clear_prettyItems (depth + 1) rest).append (clear_newline depth _))
      simpa [prettyAt, tokens] using (hitems.newline_append (depth + 1)).cons_mark (c := '[') rfl
  | @object fields _ _ ih =>
    have hend : Spells ['\x7d'] [.closeObject] := Spells.nil.cons_mark rfl
    cases fields with
    | nil => simpa [prettyAt, tokens] using hend.cons_mark (c := '\x7b') rfl
    | cons field rest =>
      obtain ⟨k, v⟩ := field
      obtain ⟨hv, hrest⟩ := List.forall_mem_cons.1 ih
      have hlater :
          Spells ((prettyFields (depth + 1) rest).toList ++ ((newline depth).toList ++ ['\x7d']))
            (laterFields rest ++ [.closeObject]) :=
        (spells_prettyFields fun f hf => hrest f hf (depth + 1)).append (hend.newline_append depth)
          (clear_newline depth _)
      have hfields := ((hv (depth + 1)).append hlater
        ((clear_prettyFields (depth + 1) rest).append (clear_newline depth _))).field k
      simpa [prettyAt, tokens] using
        (hfields.newline_append (depth + 1)).cons_mark (c := '\x7b') rfl

/-! ## Whole texts -/

theorem lex_of_spells {text : String} {ts : List Token} (h : Spells text.toList ts) :
    lex text = some ts := by
  have hlex := h [] [] clear_nil
  simpa [lex, lexFrom] using hlex

theorem Value.Plain.lex_compact {v : Value} (h : v.Plain) : lex v.compact = some v.tokens :=
  lex_of_spells h.spells_compact

theorem Value.Plain.lex_pretty {v : Value} (h : v.Plain) : lex v.pretty = some v.tokens :=
  lex_of_spells (h.spells_prettyAt 0)

end SampleForge.Json
