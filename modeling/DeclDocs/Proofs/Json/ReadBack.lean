import DeclDocs.Proofs.Json.Scalars

/-! # JSON text reads back

The text of a JSON value, read within limits that admit the value, is the value again
(`Json.parse_render`): nothing is left over, and the members of every object come back in
their order.  This is so of every value a document is made of, that is, without numbers
with a point or an exponent and without repeated keys (`Json.IsReadable`).

The reader is followed with an arbitrary text after the value it reads, and with fuel
enough for the text of the value (`Json.ReadsBack`).  Items and members are then read by
induction on the list, each with the rest of the array or object after it.

The text holds no control character (`Json.le_of_mem_render`), so it is one line.
-/
namespace DeclDocs
namespace Json

/-- Whether a value is made of constants, texts, integers of at most `digitLimit` digits,
arrays, and objects with distinct keys. -/
inductive IsReadable (digitLimit : Nat) : Json → Prop
  | null : IsReadable digitLimit .null
  | bool (value : Bool) : IsReadable digitLimit (.bool value)
  | int (value : Int) (h : Decimal.digitCount value.natAbs ≤ digitLimit) :
      IsReadable digitLimit (.int value)
  | str (text : String) : IsReadable digitLimit (.str text)
  | arr (items : List Json) (h : ∀ item ∈ items, IsReadable digitLimit item) :
      IsReadable digitLimit (.arr items)
  | obj (members : Members) (hkeys : (members.map Prod.fst).Nodup)
      (h : ∀ member ∈ members, IsReadable digitLimit member.2) :
      IsReadable digitLimit (.obj members)

theorem isReadable_arr_iff {digitLimit : Nat} {items : List Json} :
    (arr items).IsReadable digitLimit ↔ ∀ item ∈ items, item.IsReadable digitLimit := by
  refine ⟨?_, .arr items⟩
  rintro (_ | _ | _ | _ | ⟨_, h⟩ | _)
  exact h

theorem isReadable_obj_iff {digitLimit : Nat} {members : Members} :
    (obj members).IsReadable digitLimit ↔
      (members.map Prod.fst).Nodup ∧ ∀ member ∈ members, member.2.IsReadable digitLimit := by
  constructor
  · rintro (_ | _ | _ | _ | _ | ⟨_, hkeys, h⟩)
    exact ⟨hkeys, h⟩
  · rintro ⟨hkeys, h⟩
    exact .obj members hkeys h

theorem isReadable_texts (digitLimit : Nat) (items : List String) :
    (texts items).IsReadable digitLimit := by
  apply IsReadable.arr
  intro item hitem
  obtain ⟨s, -, rfl⟩ := List.mem_map.mp hitem
  exact .str s

/-! ## Texts, character by character -/

theorem toList_stringText (text : String) :
    (stringText text).toList = '"' :: (text.toList.flatMap escape ++ ['"']) := by
  simp [stringText]

theorem toList_render_arr (items : List Json) :
    (render (.arr items)).toList = '[' :: ((renderItems "" items).toList ++ [']']) := by
  simp [render]

theorem toList_render_obj (members : Members) :
    (render (.obj members)).toList = '{' :: ((renderMembers "" members).toList ++ ['}']) := by
  simp [render]

theorem toList_renderItems_cons (item : Json) (rest : List Json) :
    (renderItems "" (item :: rest)).toList =
      item.render.toList ++ (renderItems ", " rest).toList := by
  simp [renderItems]

theorem toList_renderItems_next (next : Json) (rest : List Json) :
    (renderItems ", " (next :: rest)).toList =
      ',' :: ' ' :: (renderItems "" (next :: rest)).toList := by
  simp [renderItems]

theorem toList_renderMembers_cons (key : String) (value : Json) (rest : Members) :
    (renderMembers "" ((key, value) :: rest)).toList =
      '"' :: (key.toList.flatMap escape ++
        '"' :: ':' :: ' ' :: (value.render.toList ++ (renderMembers ", " rest).toList)) := by
  simp [renderMembers, stringText]

theorem toList_renderMembers_next (next : String × Json) (rest : Members) :
    (renderMembers ", " (next :: rest)).toList =
      ',' :: ' ' :: (renderMembers "" (next :: rest)).toList := by
  simp [renderMembers]

/-! ## Setting members in order -/

theorem Members.put_of_not_mem {members : Members} {key : String} (value : Json)
    (h : key ∉ members.map Prod.fst) : members.put key value = members ++ [(key, value)] := by
  induction members with
  | nil => rfl
  | cons member rest ih =>
    rw [List.map_cons, List.mem_cons, not_or] at h
    obtain ⟨k, v⟩ := member
    rw [Members.put, if_neg (Ne.symm h.1), ih h.2, List.cons_append]

/-- Setting members with distinct keys in turn gives just these members. -/
theorem Members.ofPairs_of_nodup {members : Members} (h : (members.map Prod.fst).Nodup) :
    Members.ofPairs members = members := by
  -- what has been set stays in front of what is still to be set
  have hput : ∀ (rest done : Members), ((done ++ rest).map Prod.fst).Nodup →
      rest.foldl (fun members pair => members.put pair.1 pair.2) done = done ++ rest := by
    intro rest
    induction rest with
    | nil => simp
    | cons pair rest ih =>
      intro done hdone
      have hnew : pair.1 ∉ done.map Prod.fst := by
        intro hmem
        rw [List.map_append, List.nodup_append] at hdone
        exact hdone.2.2 _ hmem _ (by simp) rfl
      rw [List.foldl_cons, Members.put_of_not_mem pair.2 hnew,
        ih _ (by simpa using hdone), List.append_assoc]
      rfl
  exact hput members [] h

/-! ## What a value begins with -/

/-- Whether a character is neither white space nor the end of an array, and no byte order
mark either. -/
def BeginsValue (c : Char) : Prop :=
  Reader.isSpace c = false ∧ c ≠ ']' ∧ c ≠ '\ufeff'

instance (c : Char) : Decidable (BeginsValue c) :=
  inferInstanceAs (Decidable (Reader.isSpace c = false ∧ c ≠ ']' ∧ c ≠ '\ufeff'))

theorem beginsValue_of_isDigit {c : Char} (hc : c.isDigit = true) : BeginsValue c := by
  have hne : ∀ d : Char, d.isDigit = false → c ≠ d := by
    rintro d hd rfl
    rw [hc] at hd
    cases hd
  refine ⟨?_, hne ']' rfl, hne '\ufeff' rfl⟩
  simp [Reader.isSpace, hne]

theorem render_beginsValue {digitLimit : Nat} {json : Json} (h : json.IsReadable digitLimit) :
    ∃ c rest, json.render.toList = c :: rest ∧ BeginsValue c := by
  cases h with
  | null => exact ⟨'n', _, rfl, by decide⟩
  | bool value =>
    cases value with
    | false => exact ⟨'f', _, rfl, by decide⟩
    | true => exact ⟨'t', _, rfl, by decide⟩
  | int value =>
    obtain ⟨c, more, -, hc, ⟨-, htext⟩ | ⟨-, htext⟩⟩ := Reader.toList_toString_cases value
    · exact ⟨c, more, htext, beginsValue_of_isDigit hc⟩
    · exact ⟨'-', c :: more, htext, by decide⟩
  | str text => exact ⟨'"', _, toList_stringText text, by decide⟩
  | arr items => exact ⟨'[', _, toList_render_arr items, by decide⟩
  | obj members => exact ⟨'{', _, toList_render_obj members, by decide⟩

theorem skipSpace_render {digitLimit : Nat} {json : Json} (h : json.IsReadable digitLimit)
    (rest : List Char) :
    Reader.skipSpace (json.render.toList ++ rest) = json.render.toList ++ rest := by
  obtain ⟨c, more, htext, hspace, -, -⟩ := render_beginsValue h
  simp [Reader.skipSpace, htext, hspace]

/-! ## Reading values -/

/-- Whether the reader, with fuel enough for the text of a value, takes it back to the value,
whatever follows it.  A value in an array takes one unit of fuel as a value and one as an
item, and has at least one character. -/
def ReadsBack (limits : Limits) (json : Json) : Prop :=
  ∀ (fuel : Nat) (rest : List Char), 2 * json.render.toList.length ≤ fuel →
    Reader.FollowsValue rest →
      Reader.value fuel limits (json.render.toList ++ rest) = .ok (json, rest)

theorem readsBack_of_scalar {limits : Limits} {json : Json} {c : Char} {more : List Char}
    (htext : json.render.toList = c :: more) (hquote : c ≠ '"') (harray : c ≠ '[')
    (hobject : c ≠ '{')
    (h : ∀ rest, Reader.FollowsValue rest →
      Reader.scalar limits.digits (json.render.toList ++ rest) = .ok (json, rest)) :
    ReadsBack limits json := by
  intro fuel rest hfuel hrest
  have hscalar := h rest hrest
  rw [htext] at hfuel hscalar ⊢
  cases fuel with
  | zero => cases hfuel
  | succ fuel =>
    rw [List.cons_append] at hscalar ⊢
    simpa [Reader.value, hquote, harray, hobject] using hscalar

theorem readsBack_null (limits : Limits) : ReadsBack limits .null :=
  readsBack_of_scalar rfl (by decide) (by decide) (by decide) fun _ _ => rfl

theorem readsBack_bool (limits : Limits) (value : Bool) : ReadsBack limits (.bool value) := by
  cases value with
  | false => exact readsBack_of_scalar rfl (by decide) (by decide) (by decide) fun _ _ => rfl
  | true => exact readsBack_of_scalar rfl (by decide) (by decide) (by decide) fun _ _ => rfl

theorem readsBack_int {limits : Limits} {value : Int}
    (h : Decimal.digitCount value.natAbs ≤ limits.digits) : ReadsBack limits (.int value) := by
  have hread : ∀ rest, Reader.FollowsValue rest →
      Reader.scalar limits.digits ((toString value).toList ++ rest) = .ok (.int value, rest) :=
    fun _ => Reader.scalar_int limits.digits value h
  obtain ⟨c, more, -, hc, ⟨-, htext⟩ | ⟨-, htext⟩⟩ := Reader.toList_toString_cases value
  · refine readsBack_of_scalar htext ?_ ?_ ?_ hread <;>
      (rintro rfl; cases hc)
  · exact readsBack_of_scalar htext (by decide) (by decide) (by decide) hread

theorem readsBack_str (limits : Limits) (text : String) : ReadsBack limits (.str text) := by
  intro fuel rest hfuel _
  rw [render, toList_stringText] at hfuel ⊢
  cases fuel with
  | zero => cases hfuel
  | succ fuel =>
    have hread := Reader.stringBody_text
      ('"' :: (text.toList.flatMap escape ++ '"' :: rest)) text rest
    simp [Reader.value, hread, bind, Except.bind, pure, Except.pure]

/-! ## Reading arrays and objects

One step of reading takes an item, or a key and its value, and stops at the end of the
array or object or goes on after a comma. -/

section Steps
variable {fuel : Nat} {limits : Limits} {text rest : List Char}

theorem items_close {item : Json} (read : List Json)
    (h : Reader.value fuel limits text = .ok (item, ']' :: rest)) :
    Reader.items (fuel + 1) limits read text = .ok (.arr (item :: read).reverse, rest) := by
  simp only [Reader.items, h, bind, Except.bind]
  rfl

theorem items_comma {item : Json} (read : List Json)
    (h : Reader.value fuel limits text = .ok (item, ',' :: rest)) :
    Reader.items (fuel + 1) limits read text =
      Reader.items fuel limits (item :: read) (Reader.skipSpace rest) := by
  simp only [Reader.items, h, bind, Except.bind]
  rfl

theorem skipSpace_colon (text : List Char) :
    Reader.skipSpace (':' :: ' ' :: text) = ':' :: ' ' :: text := rfl

theorem skipSpace_space (text : List Char) :
    Reader.skipSpace (' ' :: text) = Reader.skipSpace text := rfl

theorem members_close (key : String) {value : Json} (read : Members)
    (hspace : Reader.skipSpace text = text)
    (h : Reader.value fuel limits text = .ok (value, '}' :: rest)) :
    Reader.members (fuel + 1) limits read
        ('"' :: (key.toList.flatMap escape ++ '"' :: ':' :: ' ' :: text)) =
      .ok (.obj (Members.ofPairs ((key, value) :: read).reverse), rest) := by
  simp only [Reader.members, Reader.stringBody_text, skipSpace_colon, skipSpace_space, hspace, h,
    bind, Except.bind]
  rfl

theorem members_comma (key : String) {value : Json} (read : Members)
    (hspace : Reader.skipSpace text = text)
    (h : Reader.value fuel limits text = .ok (value, ',' :: rest)) :
    Reader.members (fuel + 1) limits read
        ('"' :: (key.toList.flatMap escape ++ '"' :: ':' :: ' ' :: text)) =
      Reader.members fuel limits ((key, value) :: read) (Reader.skipSpace rest) := by
  simp only [Reader.members, Reader.stringBody_text, skipSpace_colon, skipSpace_space, hspace, h,
    bind, Except.bind]
  rfl

theorem value_array {inner : Limits} (hinner : limits.inner? = some inner) {c : Char}
    (hc : BeginsValue c) :
    Reader.value (fuel + 1) limits ('[' :: c :: text) = Reader.items fuel inner [] (c :: text) := by
  simp [Reader.value, hinner, Reader.skipSpace, hc.1, hc.2.1]

theorem value_object {inner : Limits} (hinner : limits.inner? = some inner) :
    Reader.value (fuel + 1) limits ('{' :: '"' :: text) =
      Reader.members fuel inner [] ('"' :: text) := by
  simp [Reader.value, hinner, Reader.skipSpace, Reader.isSpace]

end Steps

/-- The items of an array are read one after another, up to its end. -/
theorem items_readBack {limits : Limits} {digitLimit : Nat} (first : Json) (more : List Json)
    (hitems : ∀ item ∈ first :: more, item.IsReadable digitLimit ∧ ReadsBack limits item)
    (fuel : Nat) (hfuel : 2 * (renderItems "" (first :: more)).toList.length < fuel)
    (read : List Json) (rest : List Char) :
    Reader.items fuel limits read ((renderItems "" (first :: more)).toList ++ ']' :: rest) =
      .ok (.arr (read.reverse ++ first :: more), rest) := by
  induction more generalizing first fuel read with
  | nil =>
    obtain ⟨⟨-, hread⟩, -⟩ := List.forall_mem_cons.mp hitems
    cases fuel with
    | zero => cases hfuel
    | succ fuel =>
      have htext : (renderItems "" [first]).toList = first.render.toList := by
        simp [renderItems]
      rw [htext] at hfuel ⊢
      have hvalue := hread fuel (']' :: rest) (by omega)
        (Reader.followsValue_cons (.inr (.inl rfl)))
      rw [items_close read hvalue, List.reverse_cons]
  | cons next others ih =>
    obtain ⟨⟨-, hread⟩, hmore⟩ := List.forall_mem_cons.mp hitems
    obtain ⟨⟨hnext, -⟩, -⟩ := List.forall_mem_cons.mp hmore
    cases fuel with
    | zero => cases hfuel
    | succ fuel =>
      rw [toList_renderItems_cons, toList_renderItems_next] at hfuel ⊢
      simp only [List.length_append, List.length_cons] at hfuel
      rw [List.append_assoc]
      -- the comma ends the item, and the next item ends the space after the comma
      have hvalue := hread fuel
        (',' :: ' ' :: ((renderItems "" (next :: others)).toList ++ ']' :: rest)) (by omega)
        (Reader.followsValue_cons (.inl rfl))
      have hothers := ih next hmore fuel (by omega) (first :: read)
      have hspace : Reader.skipSpace
          (' ' :: ((renderItems "" (next :: others)).toList ++ ']' :: rest)) =
            (renderItems "" (next :: others)).toList ++ ']' :: rest := by
        rw [toList_renderItems_cons, List.append_assoc]
        exact skipSpace_render hnext _
      refine (items_comma read hvalue).trans ?_
      rw [hspace, hothers, List.reverse_cons, List.append_assoc]
      rfl

/-- The members of an object are read one after another, up to its end. -/
theorem members_readBack {limits : Limits} {digitLimit : Nat} (key : String) (value : Json)
    (more : Members)
    (hmembers : ∀ member ∈ (key, value) :: more,
      member.2.IsReadable digitLimit ∧ ReadsBack limits member.2)
    (fuel : Nat) (hfuel : 2 * (renderMembers "" ((key, value) :: more)).toList.length < fuel)
    (read : Members) (rest : List Char) :
    Reader.members fuel limits read
        ((renderMembers "" ((key, value) :: more)).toList ++ '}' :: rest) =
      .ok (.obj (Members.ofPairs (read.reverse ++ (key, value) :: more)), rest) := by
  induction more generalizing key value fuel read with
  | nil =>
    obtain ⟨hreadable, hread⟩ := hmembers (key, value) List.mem_cons_self
    simp only at hreadable hread
    cases fuel with
    | zero => cases hfuel
    | succ fuel =>
      have hnil : (renderMembers ", " []).toList = [] := by
        simp [renderMembers]
      rw [toList_renderMembers_cons, hnil, List.append_nil] at hfuel ⊢
      simp only [List.length_append, List.length_cons] at hfuel
      have hvalue := hread fuel ('}' :: rest) (by omega)
        (Reader.followsValue_cons (.inr (.inr rfl)))
      have hclose := members_close key read (skipSpace_render hreadable _) hvalue
      simp only [List.cons_append, List.append_assoc]
      rw [hclose, List.reverse_cons]
  | cons next others ih =>
    obtain ⟨⟨hreadable, hread⟩, hmore⟩ := List.forall_mem_cons.mp hmembers
    simp only at hreadable hread
    cases fuel with
    | zero => cases hfuel
    | succ fuel =>
      obtain ⟨nextKey, nextValue⟩ := next
      rw [toList_renderMembers_cons, toList_renderMembers_next] at hfuel ⊢
      simp only [List.length_append, List.length_cons] at hfuel
      have hvalue := hread fuel
        (',' :: ' ' :: ((renderMembers "" ((nextKey, nextValue) :: others)).toList ++
          '}' :: rest)) (by omega) (Reader.followsValue_cons (.inl rfl))
      have hothers := ih nextKey nextValue hmore fuel (by omega) ((key, value) :: read)
      have hspace : Reader.skipSpace
          (' ' :: ((renderMembers "" ((nextKey, nextValue) :: others)).toList ++ '}' :: rest)) =
            (renderMembers "" ((nextKey, nextValue) :: others)).toList ++ '}' :: rest := by
        rw [toList_renderMembers_cons]
        rfl
      have hcomma := members_comma key read (skipSpace_render hreadable _) hvalue
      simp only [List.cons_append, List.append_assoc]
      rw [hcomma, hspace, hothers, List.reverse_cons, List.append_assoc]
      rfl

/-! ## Reading the whole text -/

theorem readsBack_arr {limits inner : Limits} {digitLimit : Nat} {items : List Json}
    (hinner : limits.inner? = some inner)
    (hitems : ∀ item ∈ items, item.IsReadable digitLimit ∧ ReadsBack inner item) :
    ReadsBack limits (.arr items) := by
  intro fuel rest hfuel _
  rw [toList_render_arr] at hfuel ⊢
  simp only [List.length_append, List.length_cons, List.length_nil] at hfuel
  cases fuel with
  | zero => cases hfuel
  | succ fuel =>
    cases items with
    | nil => simp [Reader.value, hinner, renderItems, Reader.skipSpace, Reader.isSpace]
    | cons first more =>
      have hread := items_readBack first more hitems fuel (by omega) [] rest
      -- the first character tells the array from the empty one
      obtain ⟨c, after, htext, hc⟩ := render_beginsValue (hitems first List.mem_cons_self).1
      rw [toList_renderItems_cons, htext] at hread ⊢
      simp only [List.cons_append, List.append_assoc, List.nil_append] at hread ⊢
      rw [value_array hinner hc, hread]
      rfl

theorem readsBack_obj {limits inner : Limits} {digitLimit : Nat} {members : Members}
    (hinner : limits.inner? = some inner) (hkeys : (members.map Prod.fst).Nodup)
    (hmembers : ∀ member ∈ members,
      member.2.IsReadable digitLimit ∧ ReadsBack inner member.2) :
    ReadsBack limits (.obj members) := by
  intro fuel rest hfuel _
  rw [toList_render_obj] at hfuel ⊢
  simp only [List.length_append, List.length_cons, List.length_nil] at hfuel
  cases fuel with
  | zero => cases hfuel
  | succ fuel =>
    cases members with
    | nil => simp [Reader.value, hinner, renderMembers, Reader.skipSpace, Reader.isSpace]
    | cons first more =>
      obtain ⟨key, value⟩ := first
      have hread := members_readBack key value more hmembers fuel (by omega) [] rest
      rw [toList_renderMembers_cons] at hread ⊢
      simp only [List.cons_append, List.append_assoc, List.nil_append] at hread ⊢
      rw [value_object hinner, hread, List.reverse_nil, List.nil_append,
        Members.ofPairs_of_nodup hkeys]

theorem depth_le_of_mem {items : List Json} {limit : Nat} (h : itemsDepth items ≤ limit) :
    ∀ item ∈ items, item.depth ≤ limit := by
  induction items with
  | nil => simp
  | cons item rest ih =>
    rw [itemsDepth, Nat.max_le] at h
    exact List.forall_mem_cons.mpr ⟨h.1, ih h.2⟩

theorem depth_le_of_mem_members {members : Members} {limit : Nat}
    (h : membersDepth members ≤ limit) : ∀ member ∈ members, member.2.depth ≤ limit := by
  induction members with
  | nil => simp
  | cons member rest ih =>
    obtain ⟨key, value⟩ := member
    rw [membersDepth, Nat.max_le] at h
    exact List.forall_mem_cons.mpr ⟨h.1, ih h.2⟩

/-- Every value a document is made of reads back, within limits that admit it. -/
theorem readsBack_of_isReadable {json : Json} {limits : Limits}
    (h : json.IsReadable limits.digits) (hdepth : json.depth ≤ limits.nesting) :
    ReadsBack limits json := by
  obtain ⟨nesting, digitLimit⟩ := limits
  simp only at h hdepth
  induction h generalizing nesting with
  | null => exact readsBack_null _
  | bool value => exact readsBack_bool _ value
  | int value h => exact readsBack_int h
  | str text => exact readsBack_str _ text
  | arr items h ih =>
    rw [depth] at hdepth
    cases nesting with
    | zero => cases hdepth
    | succ nesting =>
      have hitems := depth_le_of_mem (Nat.le_of_succ_le_succ hdepth)
      have hinner : Limits.inner? ⟨nesting + 1, digitLimit⟩ = some ⟨nesting, digitLimit⟩ := rfl
      exact readsBack_arr hinner
        fun item hitem => ⟨h item hitem, ih item hitem nesting (hitems item hitem)⟩
  | obj members hkeys h ih =>
    rw [depth] at hdepth
    cases nesting with
    | zero => cases hdepth
    | succ nesting =>
      have hmembers := depth_le_of_mem_members (Nat.le_of_succ_le_succ hdepth)
      have hinner : Limits.inner? ⟨nesting + 1, digitLimit⟩ = some ⟨nesting, digitLimit⟩ := rfl
      exact readsBack_obj hinner hkeys
        fun member hmember =>
          ⟨h member hmember, ih member hmember nesting (hmembers member hmember)⟩

/-- **The text of a value reads back**: all of it is read, and as the same value. -/
theorem parse_render {json : Json} {limits : Limits} (h : json.IsReadable limits.digits)
    (hdepth : json.depth ≤ limits.nesting) : parse limits json.render = .ok json := by
  obtain ⟨c, rest, htext, -, -, hmark⟩ := render_beginsValue h
  have hspace := skipSpace_render h []
  have hread := readsBack_of_isReadable h hdepth (2 * (json.render.toList.length + 1)) []
    (by omega) Reader.followsValue_nil
  have hhead : json.render.toList.head? ≠ some '\ufeff' := by
    rw [htext]
    simpa using hmark
  rw [List.append_nil] at hspace hread
  have hdocument : Reader.document limits json.render.toList = .ok json := by
    rw [Reader.document, if_neg hhead, hspace]
    show (Reader.value _ limits json.render.toList >>= _) = _
    rw [hread]
    rfl
  simp only [parse, hdocument]

/-! ## One line -/

/-- Whether a text has no character below U+0020, and so no line break either. -/
def IsOneLine (text : String) : Prop :=
  ∀ c ∈ text.toList, 0x20 ≤ c.toNat

instance (text : String) : Decidable (IsOneLine text) :=
  List.decidableBAll (fun c : Char => 0x20 ≤ c.toNat) text.toList

theorem IsOneLine.append {first second : String} (hfirst : IsOneLine first)
    (hsecond : IsOneLine second) : IsOneLine (first ++ second) := by
  intro c hc
  rw [String.toList_append, List.mem_append] at hc
  exact hc.elim (hfirst c) (hsecond c)

theorem le_of_mem_escape {c d : Char} (hd : d ∈ escape c) : 0x20 ≤ d.toNat := by
  rcases escape_cases c with ⟨letter, hc, -, hletter⟩ | ⟨hc, hcontrol⟩ | ⟨hc, -, -, hprintable⟩
  · rw [hc, List.mem_cons, List.mem_singleton] at hd
    rcases hd with rfl | rfl
    · decide
    · exact hletter
  · have hdigit : ∀ n < 16, 0x20 ≤ (hexDigit n).toNat := by decide
    rw [hc] at hd
    simp only [List.mem_cons, List.not_mem_nil, or_false] at hd
    rcases hd with rfl | rfl | rfl | rfl | rfl | rfl
    · decide
    · decide
    · decide
    · decide
    · exact hdigit _ (by omega)
    · exact hdigit _ (by omega)
  · rw [hc, List.mem_singleton] at hd
    rw [hd]
    exact hprintable

theorem isOneLine_stringText (text : String) : IsOneLine (stringText text) := by
  intro d hd
  rw [toList_stringText, List.mem_cons, List.mem_append, List.mem_singleton] at hd
  rcases hd with rfl | hd | rfl
  · decide
  · obtain ⟨c, -, hc⟩ := List.mem_flatMap.mp hd
    exact le_of_mem_escape hc
  · decide

theorem isOneLine_toString (value : Int) : IsOneLine (toString value) := by
  have hdigits : ∀ c ∈ Nat.toDigits 10 value.natAbs, 0x20 ≤ c.toNat := by
    intro c hc
    have hdigit := Nat.isDigit_of_mem_toDigits (by decide) (by decide) hc
    simp only [Char.isDigit, Bool.and_eq_true, decide_eq_true_eq] at hdigit
    have hlow : '0'.toNat ≤ c.toNat := hdigit.1
    exact Nat.le_trans (by decide) hlow
  intro c hc
  obtain ⟨_, _, hmore, -, ⟨-, htext⟩ | ⟨-, htext⟩⟩ := Reader.toList_toString_cases value
  · rw [htext, ← hmore] at hc
    exact hdigits c hc
  · rw [htext, ← hmore, List.mem_cons] at hc
    rcases hc with rfl | hc
    · decide
    · exact hdigits c hc

theorem isOneLine_renderItems {items : List Json} (h : ∀ item ∈ items, IsOneLine item.render)
    {separator : String} (hseparator : IsOneLine separator) :
    IsOneLine (renderItems separator items) := by
  induction items generalizing separator with
  | nil =>
    rw [renderItems]
    decide
  | cons item rest ih =>
    obtain ⟨hitem, hrest⟩ := List.forall_mem_cons.mp h
    rw [renderItems]
    exact (hseparator.append hitem).append (ih hrest (by decide))

theorem isOneLine_renderMembers {members : Members}
    (h : ∀ member ∈ members, IsOneLine member.2.render) {separator : String}
    (hseparator : IsOneLine separator) : IsOneLine (renderMembers separator members) := by
  induction members generalizing separator with
  | nil =>
    rw [renderMembers]
    decide
  | cons member rest ih =>
    obtain ⟨hmember, hrest⟩ := List.forall_mem_cons.mp h
    obtain ⟨key, value⟩ := member
    have hkey := hseparator.append (isOneLine_stringText key)
    rw [renderMembers]
    exact ((hkey.append (by decide)).append hmember).append (ih hrest (by decide))

/-- The text of a value is one line. -/
theorem isOneLine_render {digitLimit : Nat} {json : Json} (h : json.IsReadable digitLimit) :
    IsOneLine json.render := by
  induction h with
  | null => decide
  | bool value => cases value <;> decide
  | int value => exact isOneLine_toString value
  | str text => exact isOneLine_stringText text
  | arr items h ih =>
    rw [render]
    exact ((show IsOneLine "[" by decide).append (isOneLine_renderItems ih (by decide))).append
      (by decide)
  | obj members hkeys h ih =>
    rw [render]
    exact ((show IsOneLine "\x7b" by decide).append
      (isOneLine_renderMembers ih (by decide))).append (by decide)

end Json
end DeclDocs
