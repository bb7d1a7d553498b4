/-
BreakCheck/Proofs/Json/WellFormed.lean

When the text of data is JSON.

Compact text comes of all data whose names are texts (`exists_write_compact_iff`).  But it
may not be JSON: the bracket of a map that announces no entries is closed at once, and once
more behind the entries, if there are any.  Every map that strays in this way closes one
bracket too many (`writes_valueChars`), and no other bracket makes up for it, since all of
them are closed where they should be.  So one stray map is enough, wherever it stands.  Set
out, such data gives no text at all (`exists_write_pretty_iff`, `write_pretty_of_strays`).

Main result: `isWellFormed_iff`.
-/
import BreakCheck.Proofs.Json.Brackets
import BreakCheck.Proofs.Json.RoundTrip

namespace BreakCheck

namespace Json

/-! ### The writers -/

/-- **What comes of writing**: text with so many brackets left open if the names are texts,
and otherwise an error. -/
def Writes (result : Except WriteError (List Char)) (named : Bool) (net : Int) : Prop :=
  match result with
  | .ok chars => named = true ∧ Nets chars net
  | .error _ => named = false

section Writes

variable {result result' : Except WriteError (List Char)} {named named' : Bool}
  {net net' total : Int}

theorem Writes.map (first : Writes result named net) {join : List Char → List Char}
    (joined : ∀ chars, Nets chars net → Nets (join chars) total) :
    Writes (do let chars ← result; return join chars) named total := by
  cases result with
  | error error => exact first
  | ok chars => exact ⟨first.1, joined chars first.2⟩

/-- Two parts are written if both are, and what they leave open adds up. -/
theorem Writes.both (first : Writes result named net) (second : Writes result' named' net')
    {join : List Char → List Char → List Char}
    (joined : ∀ chars chars', Nets chars net → Nets chars' net' → Nets (join chars chars') total) :
    Writes (do let chars ← result; let chars' ← result'; return join chars chars')
      (named && named') total := by
  cases result with
  | error error =>
    have unnamed : named = false := first
    rw [unnamed]
    exact rfl
  | ok chars =>
    rw [first.1, Bool.true_and]
    exact second.map fun chars' => joined chars chars' first.2

end Writes

theorem nets_line (style : Style) (depth : Nat) : Nets (style.line depth) 0 := by
  apply nets_neutral
  cases style with
  | compact => rfl
  | pretty =>
    rw [Style.line, List.all_cons, Bool.and_eq_true]
    refine ⟨by decide, ?_⟩
    rw [List.all_eq_true]
    intro c held
    rw [List.eq_of_mem_replicate held]
    decide

theorem nets_colon (style : Style) : Nets style.colon 0 := by
  apply nets_neutral
  cases style <;> decide

/-- A member is written if its name is a text and its value is written. -/
theorem writes_memberChars (style : Style) (key : Data) {value : Except WriteError (List Char)}
    {named : Bool} {net : Int} (held : Writes value named net) :
    Writes (memberChars style key value) (key.isText && named) net := by
  cases key with
  | text name =>
    rw [memberChars, Data.isText, Bool.true_and]
    refine held.map fun chars chars_net => ?_
    have named := ((nets_textChars name).append (nets_colon style)).append chars_net
    simpa using named
  | _ => exact rfl

theorem nets_opening {c : Char} (opens : c = '[' ∨ c = '{') : Nets [c] 1 := by
  rcases opens with rfl | rfl <;> exact nets_char (by decide)

theorem nets_closing {c : Char} (closes : c = ']' ∨ c = '}') : Nets [c] (-1) := by
  rcases closes with rfl | rfl <;> exact nets_char (by decide)

/-- Two parts in brackets, on lines of their own. -/
theorem nets_bracketed (style : Style) {opening closing : Char}
    (opens : opening = '[' ∨ opening = '{') (closes : closing = ']' ∨ closing = '}')
    (depth depth' : Nat) {chars chars' : List Char} {net net' : Int} (first : Nets chars net)
    (second : Nets chars' net') :
    Nets (opening :: (style.line depth ++ chars ++ chars' ++ style.line depth' ++ [closing]))
      (net + net') := by
  have all := (nets_opening opens).append (((((nets_line style depth).append first).append
    second).append (nets_line style depth')).append (nets_closing closes))
  have total : 1 + (0 + net + net' + 0 + -1) = net + net' := by omega
  rwa [total] at all

/-- A comma and two parts behind it. -/
theorem nets_behindComma (style : Style) (depth : Nat) {chars chars' : List Char}
    {net net' : Int} (first : Nets chars net) (second : Nets chars' net') :
    Nets (',' :: (style.line depth ++ chars ++ chars')) (net + net') := by
  have comma : Nets [','] 0 := nets_char (by decide)
  have all := comma.append (((nets_line style depth).append first).append second)
  have total : 0 + (0 + net + net') = net + net' := by omega
  rwa [total] at all

/-- A map that is closed at once, and its entries behind it. -/
theorem nets_closedAtOnce (style : Style) (depth : Nat) {late : List Char} {net : Int}
    (entries : Nets late net) :
    Nets ('{' :: '}' :: (late ++ style.line depth ++ ['}'])) (-1 + net) := by
  have all := (nets_opening (.inr rfl)).append ((nets_closing (.inr rfl)).append
    ((entries.append (nets_line style depth)).append (nets_closing (.inr rfl))))
  have total : 1 + (-1 + (net + 0 + -1)) = -1 + net := by omega
  rwa [total] at all

mutual

/-- **Data is written** if its names are texts, and every map that strays from what it
announces closes one bracket too many. -/
theorem writes_valueChars (style : Style) : ∀ (data : Data) (depth : Nat),
    Writes (valueChars style data depth) data.namesAreTexts (-data.strays)
  | .null, _ => ⟨rfl, nets_neutral (by decide)⟩
  | .flag true, _ => ⟨rfl, nets_neutral (by decide)⟩
  | .flag false, _ => ⟨rfl, nets_neutral (by decide)⟩
  | .text value, _ => ⟨rfl, nets_textChars value⟩
  | .list [], _ => ⟨rfl, (nets_opening (.inl rfl)).append (nets_closing (.inl rfl))⟩
  | .list (item :: rest), depth => by
    rw [valueChars, Data.namesAreTexts, Data.itemNamesAreTexts, Data.strays, Data.itemStrays,
      Int.natCast_add, Int.neg_add]
    exact (writes_valueChars style item (depth + 1)).both (writes_itemChars style rest (depth + 1))
      fun chars chars' => nets_bracketed style (.inl rfl) (.inl rfl) (depth + 1) depth
  | .map 0 [], _ => ⟨rfl, (nets_opening (.inr rfl)).append (nets_closing (.inr rfl))⟩
  | .map (announced + 1) [], _ => ⟨rfl, (nets_opening (.inr rfl)).append (nets_closing (.inr rfl))⟩
  | .map 0 (entry :: entries), depth => by
    rw [valueChars, Data.namesAreTexts, Data.strays, if_pos ⟨rfl, List.cons_ne_nil _ _⟩,
      Int.natCast_add, Int.neg_add]
    · exact (writes_entryChars style (entry :: entries) depth).map
        fun late => nets_closedAtOnce style depth
    · simp
  | .map (announced + 1) ((key, value) :: rest), depth => by
    rw [valueChars, Data.namesAreTexts, Data.entryNamesAreTexts, Data.strays,
      if_neg (fun both => Nat.succ_ne_zero announced both.1), Data.entryStrays, Nat.zero_add,
      Int.natCast_add, Int.neg_add]
    · exact (writes_memberChars style key (writes_valueChars style value (depth + 1))).both
        (writes_entryChars style rest (depth + 1))
        fun chars chars' => nets_bracketed style (.inr rfl) (.inr rfl) (depth + 1) depth
    · simp

theorem writes_itemChars (style : Style) : ∀ (items : List Data) (depth : Nat),
    Writes (itemChars style items depth) (Data.itemNamesAreTexts items) (-Data.itemStrays items)
  | [], _ => ⟨rfl, Leads.nil _⟩
  | item :: rest, depth => by
    rw [itemChars, Data.itemNamesAreTexts, Data.itemStrays, Int.natCast_add, Int.neg_add]
    exact (writes_valueChars style item depth).both (writes_itemChars style rest depth)
      fun chars chars' => nets_behindComma style depth

theorem writes_entryChars (style : Style) : ∀ (entries : List (Data × Data)) (depth : Nat),
    Writes (entryChars style entries depth) (Data.entryNamesAreTexts entries)
      (-Data.entryStrays entries)
  | [], _ => ⟨rfl, Leads.nil _⟩
  | (key, value) :: rest, depth => by
    rw [entryChars, Data.entryNamesAreTexts, Data.entryStrays, Int.natCast_add, Int.neg_add]
    exact (writes_memberChars style key (writes_valueChars style value depth)).both
      (writes_entryChars style rest depth) fun chars chars' => nets_behindComma style depth

end

/-! ### When data is written, and when its text is JSON -/

/-- Compact text is written exactly if the names are texts. -/
theorem exists_write_compact_iff (data : Data) :
    (∃ text, write .compact data = .ok text) ↔ data.namesAreTexts = true := by
  have writes := writes_valueChars .compact data 0
  rw [write]
  cases result : valueChars .compact data 0 with
  | error error =>
    rw [result] at writes
    have unnamed : data.namesAreTexts = false := writes
    simp [unnamed, Except.map]
  | ok chars =>
    rw [result] at writes
    exact ⟨fun _ => writes.1, fun _ => ⟨_, rfl⟩⟩

/-- Text is set out exactly if JSON can say what the data says. -/
theorem exists_write_pretty_iff (data : Data) :
    (∃ text, write .pretty data = .ok text) ↔ data.bearsJson = true := by
  constructor
  · rintro ⟨text, written⟩
    have known := indents_indentBehind data 0
    cases found : indentBehind data 0 with
    | error error =>
      rw [write, found] at written
      cases written
    | ok behind =>
      rw [found] at known
      exact Data.bearsJson_iff.2 ⟨known.1, (Nat.add_eq_zero_iff.1 known.2).2⟩
  · exact fun bears => ⟨_, write_eq_layout .pretty bears⟩

/-- If anything is written, the names are texts. -/
theorem namesAreTexts_of_write {style : Style} {data : Data} {text : String}
    (written : write style data = .ok text) : data.namesAreTexts = true := by
  cases style with
  | compact => exact (exists_write_compact_iff data).1 ⟨text, written⟩
  | pretty => exact (Data.bearsJson_iff.1 ((exists_write_pretty_iff data).1 ⟨text, written⟩)).1

/-- **Setting out a map that strays fails for its indentation**, if all names are texts. -/
theorem write_pretty_of_strays {data : Data} (named : data.namesAreTexts = true)
    (strays : data.strays ≠ 0) : write .pretty data = .error .lostIndentation := by
  rw [write, indentBehind_eq named, if_neg (mt Nat.le_zero.1 strays)]
  rfl

/-- The tree of a text can stand as a name. -/
theorem isName_jsonTree {key : Data} (isText : key.isText = true) :
    key.jsonTree.isName = true := by
  cases key with
  | text name => rfl
  | _ => cases isText

mutual

/-- Data whose names are texts has a tree without a fault. -/
theorem isSound_jsonTree : ∀ (data : Data), data.namesAreTexts = true →
    data.jsonTree.isSound = true
  | .null, _ => rfl
  | .flag _, _ => rfl
  | .text _, _ => rfl
  | .list items, named => by
    rw [Data.jsonTree, Tree.isSound]
    exact allSound_itemJsonTrees items named
  | .map _ entries, named => by
    rw [Data.jsonTree, Tree.isSound]
    exact allMembersSound_entryJsonTrees entries named

theorem allSound_itemJsonTrees : ∀ (items : List Data), Data.itemNamesAreTexts items = true →
    Tree.allSound (Data.itemJsonTrees items) = true
  | [], _ => rfl
  | item :: rest, named => by
    rw [Data.itemNamesAreTexts, Bool.and_eq_true] at named
    rw [Data.itemJsonTrees, Tree.allSound, isSound_jsonTree item named.1,
      allSound_itemJsonTrees rest named.2]
    rfl

theorem allMembersSound_entryJsonTrees : ∀ (entries : List (Data × Data)),
    Data.entryNamesAreTexts entries = true →
      Tree.allMembersSound (Data.entryJsonTrees entries) = true
  | [], _ => rfl
  | (key, value) :: rest, named => by
    rw [Data.entryNamesAreTexts, Bool.and_eq_true, Bool.and_eq_true] at named
    rw [Data.entryJsonTrees, Tree.allMembersSound, isName_jsonTree named.1.1,
      isSound_jsonTree value named.1.2, allMembersSound_entryJsonTrees rest named.2]
    rfl

end

/-- **Written text is JSON** exactly if no map strays from what it announces; and just then
it is the text of the data. -/
theorem isWellFormed_iff {style : Style} {data : Data} {text : String}
    (written : write style data = .ok text) :
    (isWellFormed text = true ↔ data.strays = 0)
      ∧ (Tree.ofText text = (data.jsonTree, true) ↔ data.strays = 0) := by
  have named : data.namesAreTexts = true := namesAreTexts_of_write written
  have read (straight : data.strays = 0) : Tree.ofText text = (data.jsonTree, true) := by
    have bears := Data.bearsJson_iff.2 ⟨named, straight⟩
    rw [write_eq_layout style bears, Except.ok.injEq] at written
    rw [← written, ofText_layout style bears]
  have sound (same : Tree.ofText text = (data.jsonTree, true)) : isWellFormed text = true := by
    rw [isWellFormed, same, isSound_jsonTree data named]
    rfl
  have straight (wellFormed : isWellFormed text = true) : data.strays = 0 := by
    cases style with
    | pretty => exact (Data.bearsJson_iff.1 ((exists_write_pretty_iff data).1 ⟨text, written⟩)).2
    | compact =>
      have even := nets_of_isWellFormed wellFormed
      have writes := writes_valueChars .compact data 0
      cases result : valueChars .compact data 0 with
      | error error => rw [write, result] at written; cases written
      | ok chars =>
        rw [write, result] at written
        cases written
        rw [result] at writes
        rw [String.toList_ofList] at even
        have same := even.net_eq writes.2
        omega
  exact ⟨⟨straight, fun none => sound (read none)⟩, ⟨fun same => straight (sound same), read⟩⟩

end Json

end BreakCheck
