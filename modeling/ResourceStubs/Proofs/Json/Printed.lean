import Mathlib.Data.List.Forall2
import ResourceStubs.Json.Printer
import ResourceStubs.Json.Reader

/-! Reading what was printed. A value without numbers is printed as its tokens with white space
between them, and the reader splits the text at the same places: each piece is read for its own
tokens, whatever comes behind it. The stack that the tokens are put together on then grows by one
frame for each array or object around them, so that the value comes back whole if its nesting is
within the limit. -/

namespace ResourceStubs.Json

/-- A value without numbers, all of which can be kept. -/
inductive Plain : Json → Prop
  | null : Plain .null
  | bool (b : Bool) : Plain (.bool b)
  | string (s : String) : Plain (.string s)
  | array {items : List Json} : (∀ item ∈ items, Plain item) → Plain (.array items)
  | object {members : List (String × Json)} : (∀ member ∈ members, Plain member.2) →
    Plain (.object members)

@[simp] theorem plain_null : Plain .null := .null

@[simp] theorem plain_bool (b : Bool) : Plain (.bool b) := .bool b

@[simp] theorem plain_string (s : String) : Plain (.string s) := .string s

@[simp] theorem plain_array {items : List Json} :
    Plain (.array items) ↔ ∀ item ∈ items, Plain item :=
  ⟨fun | .array h => h, .array⟩

@[simp] theorem plain_object {members : List (String × Json)} :
    Plain (.object members) ↔ ∀ member ∈ members, Plain member.2 :=
  ⟨fun | .object h => h, .object⟩

mutual

/-- The tokens of a value. -/
def tokens : Json → List Token
  | .null => [.null]
  | .bool b => [.bool b]
  | .number n => [.number (some n)]
  | .string s => [.string (some s)]
  | .array items => .openArray :: itemTokens items ++ [.closeArray]
  | .object members => .openObject :: memberTokens members ++ [.closeObject]
  | .unusable => []

/-- The tokens of items, with commas between them. -/
def itemTokens : List Json → List Token
  | [] => []
  | [item] => item.tokens
  | item :: rest => item.tokens ++ .comma :: itemTokens rest

/-- The tokens of members, with commas between them. -/
def memberTokens : List (String × Json) → List Token
  | [] => []
  | [(key, value)] => .string (some key) :: .colon :: value.tokens
  | (key, value) :: rest =>
    .string (some key) :: .colon :: value.tokens ++ .comma :: memberTokens rest

end

mutual

/-- How deep arrays and objects are nested in a value. -/
def depth : Json → Nat
  | .array items => itemsDepth items + 1
  | .object members => membersDepth members + 1
  | _ => 0

/-- How deep they are nested in the deepest of the items. -/
def itemsDepth : List Json → Nat
  | [] => 0
  | item :: rest => max item.depth (itemsDepth rest)

/-- How deep they are nested in the deepest of the members. -/
def membersDepth : List (String × Json) → Nat
  | [] => 0
  | (_, value) :: rest => max value.depth (membersDepth rest)

end

/-! ### Strings -/

/-- The piece is read as the character: it is the character, or it names it by its code. -/
inductive Piece.Stands : Piece → Char → Prop
  | char (c : Char) : Stands (.char c) c
  | unit {c : Char} : c.toNat < 0xd800 → Stands (.unit c.toNat) c

theorem hexDigit?_hexChar {n : Nat} (h : n < 16) : hexDigit? (hexChar n) = some n := by
  revert n
  decide

/-- An escaped character is read back as one piece. -/
theorem exists_stringPieces_escapeChar (c : Char) : ∃ piece : Piece, piece.Stands c ∧
    ∀ before rest, stringPieces before (escapeChar c ++ rest) =
      stringPieces (piece :: before) rest := by
  unfold escapeChar
  split
  case h_8 hquote hbackslash _ _ _ _ _ =>
    split
    next hcontrol =>
      have hhigh := hexDigit?_hexChar (n := c.toNat / 16) (by omega)
      have hlow := hexDigit?_hexChar (n := c.toNat % 16) (by omega)
      have hzero : hexDigit? '0' = some 0 := by decide
      refine ⟨.unit c.toNat, .unit (by omega), fun before rest => ?_⟩
      have hcode : ((0 * 16 + 0) * 16 + c.toNat / 16) * 16 + c.toNat % 16 = c.toNat := by omega
      simp only [List.cons_append, List.nil_append, stringPieces, hhigh, hlow, hzero, hcode]
    next hcontrol =>
      refine ⟨.char c, .char c, fun before rest => ?_⟩
      rw [List.singleton_append, stringPieces, if_neg (not_or.mpr ⟨hbackslash, hcontrol⟩)]
      all_goals simp_all
  all_goals exact ⟨.char _, .char _, fun before rest => by simp [stringPieces, escaped?]⟩

/-- A code that is no half of a surrogate pair is read as its character, whatever comes behind
it. -/
theorem joinPieces_unit {n : Nat} (h : n < 0xd800) (before : List Char) (rest : List Piece) :
    joinPieces before (.unit n :: rest) = joinPieces (Char.ofNat n :: before) rest := by
  have hlow : ¬(0xd800 ≤ n) := by omega
  have hhigh : ¬(0xdc00 ≤ n) := by omega
  rcases rest with _ | ⟨_ | low, rest⟩ <;> simp [joinPieces, hlow, hhigh]

theorem joinPieces_of_stands {pieces : List Piece} {cs : List Char}
    (h : List.Forall₂ Piece.Stands pieces cs) (before : List Char) :
    joinPieces before pieces = some (before.reverse ++ cs) := by
  induction h generalizing before with
  | nil => simp [joinPieces]
  | cons hpiece _ ih =>
    cases hpiece with
    | char c => rw [joinPieces, ih, List.reverse_cons, List.append_assoc, List.singleton_append]
    | unit hlow =>
      rw [joinPieces_unit hlow, Char.ofNat_toNat, ih, List.reverse_cons, List.append_assoc,
        List.singleton_append]

/-- What was written between quotes is read back, up to the closing quote. -/
theorem exists_stringPieces (cs rest : List Char) : ∃ pieces, List.Forall₂ Piece.Stands pieces cs ∧
    ∀ before, stringPieces before (cs.flatMap escapeChar ++ '"' :: rest) =
      some (before.reverse ++ pieces, rest) := by
  induction cs with
  | nil => exact ⟨[], .nil, fun before => by simp [stringPieces]⟩
  | cons c cs ih =>
    obtain ⟨pieces, hpieces, hrest⟩ := ih
    obtain ⟨piece, hpiece, hfirst⟩ := exists_stringPieces_escapeChar c
    refine ⟨piece :: pieces, .cons hpiece hpieces, fun before => ?_⟩
    rw [List.flatMap_cons, List.append_assoc, hfirst, hrest, List.reverse_cons, List.append_assoc,
      List.singleton_append]

theorem token?_quote (s : String) (rest : List Char) :
    token? ((quote s).toList ++ rest) = some (.string (some s), rest) := by
  obtain ⟨pieces, hpieces, hread⟩ := exists_stringPieces s.toList rest
  have hquote : (quote s).toList ++ rest =
      '"' :: (s.toList.flatMap escapeChar ++ '"' :: rest) := by simp [quote]
  rw [hquote, token?, hread]
  simp [joinPieces_of_stands hpieces]

/-! ### Tokens -/

/-- The text is read as these tokens, whatever comes behind it. -/
structure Reads (text : String) (ts : List Token) : Prop where
  length_le : ts.length ≤ text.toList.length
  tokensUpTo (before : List Token) (fuel : Nat) (rest : List Char) :
    tokensUpTo before (fuel + ts.length) (text.toList ++ rest) =
      tokensUpTo (ts.reverse ++ before) fuel rest

namespace Reads

theorem append {text text' : String} {ts ts' : List Token} (h : Reads text ts)
    (h' : Reads text' ts') : Reads (text ++ text') (ts ++ ts') where
  length_le := by
    have := h.length_le
    have := h'.length_le
    simp only [String.toList_append, List.length_append]
    omega
  tokensUpTo before fuel rest := by
    have hfuel : fuel + (ts ++ ts').length = (fuel + ts'.length) + ts.length := by
      rw [List.length_append]
      omega
    rw [String.toList_append, List.append_assoc, hfuel, h.tokensUpTo, h'.tokensUpTo,
      List.reverse_append, List.append_assoc]

/-- A text that begins with no white space and is read as its first token. -/
theorem token {c : Char} {text : String} {t : Token} (hspace : isSpace c = false)
    (hhead : text.toList.head? = some c)
    (htoken : ∀ rest, token? (text.toList ++ rest) = some (t, rest)) : Reads text [t] where
  length_le := by
    cases htext : text.toList with
    | nil => simp [htext] at hhead
    | cons _ _ => simp
  tokensUpTo before fuel rest := by
    obtain ⟨cs, htext⟩ : ∃ cs, text.toList = c :: cs := by
      cases htext : text.toList with
      | nil => simp [htext] at hhead
      | cons c' cs => exact ⟨cs, by simp_all⟩
    have hread := htoken rest
    rw [htext, List.cons_append] at hread
    rw [htext, List.cons_append, List.length_singleton, Json.tokensUpTo,
      List.dropWhile_cons_of_neg (by simp [hspace])]
    simp only [hread, List.reverse_singleton, List.singleton_append]

theorem blank {text : String} (h : ∀ c ∈ text.toList, isSpace c = true) : Reads text [] where
  length_le := Nat.zero_le _
  tokensUpTo before fuel rest := by
    rw [List.length_nil, Nat.add_zero]
    cases fuel <;> simp only [Json.tokensUpTo, List.dropWhile_append_of_pos h, List.reverse_nil,
      List.nil_append]

theorem openArray : Reads "[" [.openArray] := token (by decide) rfl fun _ => rfl

theorem closeArray : Reads "]" [.closeArray] := token (by decide) rfl fun _ => rfl

theorem openObject : Reads "\x7b" [.openObject] := token (by decide) rfl fun _ => rfl

theorem closeObject : Reads "\x7d" [.closeObject] := token (by decide) rfl fun _ => rfl

theorem comma : Reads "," [.comma] := token (by decide) rfl fun _ => rfl

theorem colon : Reads ": " [.colon] := by
  have hcolon : Reads ":" [.colon] := token (by decide) rfl fun _ => rfl
  have hspace : Reads " " [] := blank (by simp [isSpace])
  exact hcolon.append hspace

theorem null : Reads "null" [.null] := token (by decide) rfl fun _ => rfl

theorem bool (b : Bool) : Reads (if b then "true" else "false") [.bool b] := by
  cases b <;> exact token (by decide) rfl fun _ => rfl

theorem quote (s : String) : Reads (quote s) [.string (some s)] :=
  token (c := '"') (by decide) (by simp [Json.quote]) (token?_quote s)

theorem newLine (level : Nat) : Reads (newLine level) [] :=
  blank <| by simp [Json.newLine, isSpace]

end Reads

/-! ### Values -/

theorem reads_indentedItems {level : Nat} {items : List Json}
    (h : ∀ item ∈ items, Reads (indented level item) item.tokens) :
    Reads (indentedItems level items) (itemTokens items) := by
  induction items with
  | nil => exact .blank (by simp [indentedItems])
  | cons item rest ih =>
    obtain ⟨hitem, hrest⟩ := List.forall_mem_cons.mp h
    cases rest with
    | nil => exact hitem
    | cons next rest =>
      have hall := ((hitem.append .comma).append (.newLine level)).append (ih hrest)
      simpa [indentedItems, itemTokens] using hall

theorem reads_indentedMembers {level : Nat} {members : List (String × Json)}
    (h : ∀ member ∈ members, Reads (indented level member.2) member.2.tokens) :
    Reads (indentedMembers level members) (memberTokens members) := by
  induction members with
  | nil => exact .blank (by simp [indentedMembers])
  | cons member rest ih =>
    obtain ⟨key, value⟩ := member
    obtain ⟨hvalue, hrest⟩ := List.forall_mem_cons.mp h
    have hmember := ((Reads.quote key).append .colon).append hvalue
    cases rest with
    | nil => simpa [indentedMembers, memberTokens] using hmember
    | cons next rest =>
      have hall := ((hmember.append .comma).append (.newLine level)).append (ih hrest)
      simpa [indentedMembers, memberTokens] using hall

/-- A value is printed as its tokens, with white space between them. -/
theorem Plain.reads_indented {json : Json} (h : json.Plain) (level : Nat) :
    Reads (indented level json) json.tokens := by
  induction h generalizing level with
  | null => exact .null
  | bool b => exact .bool b
  | string s => exact .quote s
  | @array items _ ih =>
    cases items with
    | nil => exact Reads.openArray.append .closeArray
    | cons item rest =>
      have hitems := reads_indentedItems fun item hi => ih item hi (level + 1)
      have hall := (((Reads.openArray.append (.newLine (level + 1))).append hitems).append
        (.newLine level)).append .closeArray
      simpa [indented, tokens] using hall
  | @object members _ ih =>
    cases members with
    | nil => exact Reads.openObject.append .closeObject
    | cons member rest =>
      have hmembers := reads_indentedMembers fun member hm => ih member hm (level + 1)
      have hall := (((Reads.openObject.append (.newLine (level + 1))).append hmembers).append
        (.newLine level)).append .closeObject
      simpa [indented, tokens] using hall

/-- The text of a value has the tokens of the value. -/
theorem Plain.tokens?_pretty {json : Json} (h : json.Plain) :
    tokens? json.pretty.toList = some json.tokens := by
  obtain ⟨hlength, hread⟩ := h.reads_indented 0
  obtain ⟨fuel, hfuel⟩ := Nat.exists_eq_add_of_le hlength
  have hall := hread [] fuel []
  rw [tokens?, pretty, hfuel, Nat.add_comm]
  rw [List.append_nil] at hall
  rw [hall]
  cases fuel <;> simp [tokensUpTo]

/-! ### Putting values together -/

/-- The tokens lead from a reading to another, where values may be nested up to a limit. -/
def Leads (limit : Nat) (ts : List Token) (r r' : Reading) : Prop :=
  ts.foldlM (Reading.next? limit) r = some r'

variable {limit : Nat}

namespace Leads

variable {r r' r'' : Reading} {ts ts' : List Token}

theorem cons {token : Token} (h : r.next? limit token = some r') (h' : Leads limit ts r' r'') :
    Leads limit (token :: ts) r r'' := by
  rw [Leads, List.foldlM_cons, h]
  exact h'

theorem single {token : Token} (h : r.next? limit token = some r') : Leads limit [token] r r' :=
  cons h rfl

theorem append (h : Leads limit ts r r') (h' : Leads limit ts' r' r'') :
    Leads limit (ts ++ ts') r r'' := by
  rw [Leads, List.foldlM_append, h]
  exact h'

end Leads

/-- A value may come next: as a member or after a comma, or as the first item of an array. -/
def Expected.AllowsValue (expected : Expected) : Prop :=
  expected = .value ∨ expected = .valueOrClose

/-- An array may be opened where a value may come next. -/
theorem Expected.AllowsValue.next?_openArray {expected : Expected} (h : expected.AllowsValue)
    (frames : List Frame) : Reading.next? limit ⟨frames, expected, none⟩ .openArray =
      some ⟨.array [] :: frames, .valueOrClose, none⟩ := by
  rcases h with rfl | rfl <;> rfl

/-- An object may be opened where a value may come next. -/
theorem Expected.AllowsValue.next?_openObject {expected : Expected} (h : expected.AllowsValue)
    (frames : List Frame) : Reading.next? limit ⟨frames, expected, none⟩ .openObject =
      some ⟨.object [] none :: frames, .keyOrClose, none⟩ := by
  rcases h with rfl | rfl <;> rfl

/-- Where a value may come next, its tokens are put together to it, unless it is nested deeper than
the limit. -/
def Builds (limit : Nat) (json : Json) : Prop :=
  ∀ (frames : List Frame) (expected : Expected), expected.AllowsValue →
    frames.length + json.depth ≤ limit →
    Leads limit json.tokens ⟨frames, expected, none⟩ (.put frames json)

theorem leads_itemTokens {item : Json} {rest : List Json}
    (h : ∀ other ∈ item :: rest, Builds limit other) {outer : List Frame}
    (hdepth : outer.length + 1 + itemsDepth (item :: rest) ≤ limit) (before : List Json)
    {expected : Expected} (hexpected : expected.AllowsValue) :
    Leads limit (itemTokens (item :: rest)) ⟨.array before :: outer, expected, none⟩
      ⟨.array ((item :: rest).reverse ++ before) :: outer, .commaOrClose, none⟩ := by
  induction rest generalizing item before expected with
  | nil =>
    refine h item List.mem_cons_self (.array before :: outer) expected hexpected ?_
    simp only [itemsDepth] at hdepth
    simp only [List.length_cons]
    omega
  | cons next rest ih =>
    obtain ⟨hitem, hrest⟩ := List.forall_mem_cons.mp h
    rw [itemsDepth] at hdepth
    have hfirst := hitem (.array before :: outer) expected hexpected
      (by rw [List.length_cons]; omega)
    have hothers := ih hrest (by omega) (item :: before) (.inl rfl)
    simpa [itemTokens] using hfirst.append (.cons rfl hothers)

theorem Builds.leads_member {value : Json} (h : Builds limit value) (name : String)
    {outer : List Frame} (hdepth : outer.length + 1 + value.depth ≤ limit)
    (before : List (Option String × Json)) (key : Option String) {expected : Expected}
    (hexpected : expected = .key ∨ expected = .keyOrClose) :
    Leads limit (.string (some name) :: .colon :: value.tokens)
      ⟨.object before key :: outer, expected, none⟩
      ⟨.object ((some name, value) :: before) none :: outer, .commaOrClose, none⟩ := by
  have hvalue := h (.object before (some name) :: outer) .value (.inl rfl)
    (by rw [List.length_cons]; omega)
  rcases hexpected with rfl | rfl
  all_goals exact .cons rfl (.cons rfl hvalue)

/-- A member as the reader keeps it. -/
def keyed (member : String × Json) : Option String × Json := (some member.1, member.2)

theorem leads_memberTokens {member : String × Json} {rest : List (String × Json)}
    (h : ∀ other ∈ member :: rest, Builds limit other.2) {outer : List Frame}
    (hdepth : outer.length + 1 + membersDepth (member :: rest) ≤ limit)
    (before : List (Option String × Json)) (key : Option String) {expected : Expected}
    (hexpected : expected = .key ∨ expected = .keyOrClose) :
    Leads limit (memberTokens (member :: rest)) ⟨.object before key :: outer, expected, none⟩
      ⟨.object (((member :: rest).map keyed).reverse ++ before) none :: outer, .commaOrClose,
        none⟩ := by
  induction rest generalizing member before key expected with
  | nil =>
    obtain ⟨name, value⟩ := member
    simp only [membersDepth, Nat.max_zero] at hdepth
    exact (h _ List.mem_cons_self).leads_member name hdepth before key hexpected
  | cons next rest ih =>
    obtain ⟨name, value⟩ := member
    have hvalue : Builds limit value := h _ List.mem_cons_self
    have hrest := (List.forall_mem_cons.mp h).2
    rw [membersDepth] at hdepth
    have hinner : outer.length + 1 + value.depth ≤ limit := by omega
    have hfirst := hvalue.leads_member name hinner before key hexpected
    have hothers := ih hrest (by omega) ((some name, value) :: before) none (.inl rfl)
    simpa [memberTokens, keyed] using hfirst.append (.cons rfl hothers)

theorem namedMembers?_map_keyed (members : List (String × Json)) :
    namedMembers? (members.map keyed) = some members := by
  induction members with
  | nil => rfl
  | cons member rest ih => simp [namedMembers?, keyed, ih]

theorem close_array (items : List Json) {depth : Nat} (h : depth ≤ limit) :
    (Frame.array items.reverse).close limit depth = .array items := by
  rw [Frame.close, if_neg (by omega), List.reverse_reverse]

theorem close_object (members : List (String × Json)) {depth : Nat} (h : depth ≤ limit) :
    (Frame.object (members.map keyed).reverse none).close limit depth = .object members := by
  simp only [Frame.close, if_neg (Nat.not_lt.mpr h), List.reverse_reverse,
    namedMembers?_map_keyed]

theorem Plain.builds {json : Json} (h : json.Plain) : Builds limit json := by
  induction h with
  | null | bool b | string s =>
    rintro frames expected (rfl | rfl) -
    all_goals exact .single rfl
  | @array items _ ih =>
    intro frames expected hexpected hdepth
    rw [depth] at hdepth
    have hinner : frames.length + 1 + itemsDepth items ≤ limit := by omega
    rw [tokens, ← close_array items (Nat.le_of_add_right_le hinner)]
    cases items with
    | nil => exact .cons (hexpected.next?_openArray frames) (.single rfl)
    | cons item rest =>
      have hitems := leads_itemTokens ih hinner [] (.inr rfl)
      rw [List.append_nil] at hitems
      exact .cons (hexpected.next?_openArray frames) (hitems.append (.single rfl))
  | @object members _ ih =>
    intro frames expected hexpected hdepth
    rw [depth] at hdepth
    have hinner : frames.length + 1 + membersDepth members ≤ limit := by omega
    rw [tokens, ← close_object members (Nat.le_of_add_right_le hinner)]
    cases members with
    | nil => exact .cons (hexpected.next?_openObject frames) (.single rfl)
    | cons member rest =>
      have hmembers := leads_memberTokens ih hinner [] none (.inr rfl)
      rw [List.append_nil] at hmembers
      exact .cons (hexpected.next?_openObject frames) (hmembers.append (.single rfl))

/-- What was printed is read back, if it is not nested deeper than the limit. -/
theorem Plain.readWithin_pretty {json : Json} (h : json.Plain) (hdepth : json.depth ≤ limit) :
    readWithin limit json.pretty = some json := by
  have hbuilt := h.builds [] .value (.inl rfl) (by simpa using hdepth)
  rw [Leads] at hbuilt
  rw [readWithin, h.tokens?_pretty]
  simp [hbuilt, Reading.put]

end ResourceStubs.Json
