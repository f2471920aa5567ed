import SymbolNav.Proofs.Markup.Cursor

/-!
# No access of the scanner fails

The scanner by offsets reads the bodies of tags and the tags themselves at the offsets of the places
where `events` reads them, and builds the same tree. So for every text it answers the document,
within as many rounds as the text has characters and one more.

One thing is not told in the same words: whether a script lies in a section of character data. The
scanner by offsets asks the body up to the first end tag for the mark of a section, `scriptBody`
asks which of the two comes first. As no end tag starts inside the mark, both say the same.
-/

namespace SymbolNav.Markup

open Text

variable {text rest : List Char} {rounds : Nat}

/-! ### Bodies -/

theorem seek_pair_append {a b : Char} {front : List Char} (h : a ∉ front) (more : List Char) :
    seek [a, b] (front ++ more) = seek [a, b] more := by
  induction front with
  | nil => rfl
  | cons c front ih =>
      obtain ⟨hc, hfront⟩ : a ≠ c ∧ a ∉ front := by simpa using h
      rw [List.cons_append, seek, if_neg, ih hfront]
      rw [isPrefixOf_pair_iff]
      exact fun hfound => hc hfound.1.symm

theorem endTagStart_eq : endTagStart = ['<', '/'] := by decide

theorem cdataStart_eq : cdataStart = '<' :: '!' :: "[CDATA[".toList := by decide

/-- No end tag starts inside the mark of a section. -/
theorem seek_endTagStart_append (more : List Char) :
    seek endTagStart (cdataStart ++ more) = seek endTagStart more := by
  rw [endTagStart_eq, cdataStart_eq, List.cons_append, seek, if_neg]
  · exact seek_pair_append (by decide) more
  · rw [isPrefixOf_pair_iff]
    simp

/-- A section that starts in front of an end tag has its mark there too. -/
theorem isPrefixOf_cdataStart_iff {here body : List Char}
    (h : here = body ++ seek endTagStart here) :
    cdataStart.isPrefixOf body ↔ cdataStart.isPrefixOf here := by
  rw [List.isPrefixOf_iff_prefix, List.isPrefixOf_iff_prefix]
  constructor
  · intro hbody
    rw [h]
    exact hbody.trans <| List.prefix_append _ _
  · rintro ⟨more, rfl⟩
    rw [seek_endTagStart_append] at h
    obtain ⟨front, hmore⟩ := seek_suffix endTagStart more
    rw [← hmore, ← List.append_assoc, hmore] at h
    exact ⟨front, List.append_cancel_right h⟩

/-- Whether a section starts in front of the first end tag can be asked of the body alone. -/
theorem find?_cdataStart {body : List Char} (h : rest = body ++ seek endTagStart rest) :
    find? cdataStart body =
      if (seek endTagStart rest).length < (seek cdataStart rest).length then
        some (byteLength rest - byteLength (seek cdataStart rest))
      else none := by
  induction rest generalizing body with
  | nil =>
      obtain rfl : body = [] := by simpa [seek] using h
      rfl
  | cons c rest ih =>
      have hdata := length_seek_le cdataStart (c :: rest)
      by_cases hend : endTagStart.isPrefixOf (c :: rest) = true
      · rw [seek, if_pos hend] at h ⊢
        obtain rfl : body = [] := by simpa using h
        rw [if_neg (Nat.not_lt.mpr hdata)]
        rfl
      · have hdata := isPrefixOf_cdataStart_iff h
        rw [seek, if_neg hend] at h ⊢
        have hlength := length_seek_le endTagStart rest
        cases body with
        | nil =>
            have hsame := congrArg List.length h
            rw [List.nil_append, List.length_cons] at hsame
            omega
        | cons d body =>
            obtain ⟨rfl, htail⟩ := List.cons.inj h
            rw [find?, seek]
            by_cases hmark : cdataStart.isPrefixOf (c :: rest) = true
            · rw [if_pos (hdata.mpr hmark), if_pos hmark, if_pos (by simp; omega), Nat.sub_self]
            · have hshorter := byteLength_le_of_suffix (seek_suffix cdataStart rest)
              rw [if_neg (fun hbody => hmark (hdata.mp hbody)), if_neg hmark, ih htail]
              split
              · rw [Option.map_some, byteLength_cons]
                congr 1
                omega
              · rfl

theorem script?_offsetOf (h : rest <:+ text) :
    Cursor.script? text (offsetOf (byteLength text) rest)
        (offsetOf (byteLength text) (seek endTagStart rest)) =
      some (spanBetween (byteLength text) (scriptBody rest).1 (scriptBody rest).2) := by
  obtain ⟨body, hbody⟩ := seek_suffix endTagStart rest
  have hslice := slice?_spanBetween (hbody.symm ▸ h)
  rw [hbody, spanBetween] at hslice
  simp only [Cursor.script?, hslice, find?_cdataStart hbody.symm, Option.bind_eq_bind,
    Option.bind_some, scriptBody]
  by_cases hdata : (seek endTagStart rest).length < (seek cdataStart rest).length
  · obtain ⟨inner, hinner⟩ := exists_seek_eq (List.ne_nil_of_length_pos (Nat.zero_lt_of_lt hdata))
    have hmark : cdataStart ++ inner <:+ text := hinner ▸ (seek_suffix cdataStart rest).trans h
    have hrest := byteLength_le_of_suffix h
    have hshorter := byteLength_le_of_suffix (seek_suffix cdataStart rest)
    have hoffset := offsetOf_append cdataStart hmark
    have hstart : offsetOf (byteLength text) rest +
        (byteLength rest - byteLength (cdataStart ++ inner)) + byteLength cdataStart =
          offsetOf (byteLength text) inner := by
      rw [hinner] at hshorter
      rw [← hoffset]
      simp only [offsetOf]
      omega
    have hstop := seek?_offsetOf (show cdataEnd ≠ [] by decide) (suffix_of_append cdataStart hmark)
    simp only [if_pos hdata]
    simp only [hinner, List.drop_left, hstart, hstop, Option.bind_some]
    rfl
  · simp only [if_neg hdata]
    rfl

theorem body?_offsetOf {tail : OpenTail} (role : TagRole) (h : tail.rest <:+ text) :
    Cursor.body? text role (.ofTail (byteLength text) tail) =
      some ((tagBody (byteLength text) role tail).1,
        offsetOf (byteLength text) (tagBody (byteLength text) role tail).2) := by
  have hne : endTagStart ≠ [] := by decide
  have hstop := seek?_offsetOf hne h
  simp only [Cursor.body?, Cursor.Tail.ofTail, tagBody]
  by_cases hself : tail.selfClosing = true
  · simp only [hself, if_true]
  · simp only [if_neg hself, hstop, Option.bind_eq_bind, Option.bind_some]
    cases role with
    | script =>
        have hregion := script?_offsetOf h
        have hnext := seek?_offsetOf hne ((scriptBody_suffix tail.rest).trans h)
        simp only [hregion, spanBetween, hnext, Option.bind_some]
    | style => rfl
    | component => rfl

/-! ### Tags -/

/-- All tags still open are among the tags. -/
def Tree.Linked (t : Tree) : Prop :=
  ∀ id ∈ t.opened, id.index < t.tags.length

namespace Tree

variable {t : Tree} {tag : MarkupTag} {selfClosing : Bool} {name : Span} {stop : Nat}

theorem length_tags_start : (t.start tag selfClosing).tags.length = t.tags.length + 1 := by
  simp only [start]
  split <;> simp

theorem Linked.hasTop (h : t.Linked) : Cursor.hasTop t := by
  rw [Cursor.hasTop]
  cases hopened : t.opened with
  | nil => rfl
  | cons top opened => exact decide_eq_true (h top (hopened ▸ List.mem_cons_self))

theorem Linked.start (h : t.Linked) : (t.start tag selfClosing).Linked := by
  intro id hid
  rw [length_tags_start]
  cases selfClosing with
  | true => exact Nat.lt_succ_of_lt (h id hid)
  | false =>
      cases List.mem_cons.mp hid with
      | inl heq =>
          rw [heq]
          exact Nat.lt_succ_self _
      | inr hmem => exact Nat.lt_succ_of_lt (h id hmem)

theorem Linked.close (h : t.Linked) : (t.close name stop).Linked := by
  intro id hid
  cases hopened : t.opened with
  | nil =>
      simp only [Tree.close, hopened] at hid ⊢
      exact h id (hopened ▸ hid)
  | cons top opened =>
      simp only [Tree.close, hopened, List.length_modify] at hid ⊢
      exact h id (hopened ▸ List.mem_cons_of_mem top hid)

theorem Linked.step (h : t.Linked) (event : Event) : (t.step event).Linked := by
  cases event with
  | opened tag selfClosing => exact h.start
  | closed name stop => exact h.close

end Tree

theorem startTag?_offsetOf {body : List Char} {tree : Tree} {tail : OpenTail} (htree : tree.Linked)
    (h : '<' :: body <:+ text) (hrounds : body.length < rounds)
    (htail : openTail (byteLength text) (body.dropWhile isTagNameChar) = tail) :
    Cursor.startTag? text rounds (offsetOf (byteLength text) ('<' :: body)) tree =
      some (tree.start (tagOf (byteLength text) ('<' :: body) body tail) tail.selfClosing,
        offsetOf (byteLength text) (tagBody (byteLength text)
          (tagOf (byteLength text) ('<' :: body) body tail).role tail).2) := by
  have hbody : body <:+ text := (List.suffix_cons '<' body).trans h
  have hname : body.dropWhile isTagNameChar <:+ text := (List.dropWhile_suffix _).trans hbody
  have hlength : (body.dropWhile isTagNameChar).length < rounds :=
    Nat.lt_of_le_of_lt (length_dropWhile_le _ _) hrounds
  have hrest : tail.rest <:+ text := htail ▸ (openTail_suffix _ _).trans hname
  have hslice := slice?_takeWhile isTagNameChar hbody
  have hread := tail?_offsetOf hname hlength
  rw [spanBetween] at hslice
  rw [htail] at hread
  simp only [Cursor.startTag?, offsetOf_cons (show Char.utf8Size '<' = 1 from rfl) h,
    passBytes_offsetOf isAsciiClass_isTagNameChar hbody, hslice, hread, body?_offsetOf _ hrest,
    Cursor.start?, htree.hasTop, if_true, Option.bind_eq_bind, Option.bind_some]
  rfl

theorem endTag?_offsetOf {name : List Char} {tree : Tree} (htree : tree.Linked)
    (h : '<' :: '/' :: name <:+ text) :
    Cursor.endTag? text (offsetOf (byteLength text) ('<' :: '/' :: name)) tree =
      some (tree.close (spanBetween (byteLength text) name (name.dropWhile isTagNameChar))
          (offsetOf (byteLength text) (skipPast ['>'] (name.dropWhile isTagNameChar))),
        offsetOf (byteLength text) (skipPast ['>'] (name.dropWhile isTagNameChar))) := by
  have hname : name <:+ text := suffix_of_append ['<', '/'] h
  have hstart : offsetOf (byteLength text) ('<' :: '/' :: name) + 2 =
      offsetOf (byteLength text) name := offsetOf_append ['<', '/'] h
  have hstop := skipPast?_offsetOf (List.cons_ne_nil '>' [])
    ((List.dropWhile_suffix isTagNameChar).trans hname)
  simp only [Cursor.endTag?, hstart, passBytes_offsetOf isAsciiClass_isTagNameChar hname, hstop,
    Cursor.close?, htree.hasTop, if_true, Option.bind_eq_bind, Option.bind_some]
  rfl

/-- The search for the next tag leads to the place where it starts. -/
theorem find?_tag {c : Char} {body : List Char} (h : rest <:+ text)
    (hrest : rest.dropWhile (· ≠ '<') = c :: body) :
    ∃ distance, find? ['<'] rest = some distance ∧
      offsetOf (byteLength text) rest + distance = offsetOf (byteLength text) (c :: body) := by
  have hle := byteLength_le_of_suffix h
  have hshorter := byteLength_le_of_suffix (List.dropWhile_suffix (· ≠ '<') (l := rest))
  rw [hrest] at hshorter
  refine ⟨byteLength rest - byteLength (c :: body), ?_, ?_⟩
  · rw [find?_eq (List.cons_ne_nil '<' []), seek_singleton, hrest, if_neg (List.cons_ne_nil c body)]
  · simp only [offsetOf]
    omega

/-- One round reads what starts at the next angle bracket. -/
theorem tree?_succ {c : Char} {body : List Char} {tree : Tree} (h : rest <:+ text)
    (hrest : rest.dropWhile (· ≠ '<') = c :: body) :
    Cursor.tree? text (rounds + 1) (offsetOf (byteLength text) rest) tree =
      (Cursor.tag? text rounds (offsetOf (byteLength text) (c :: body)) tree).bind fun read =>
        Cursor.tree? text rounds read.2 read.1 := by
  obtain ⟨distance, hfound, hstart⟩ := find?_tag h hrest
  simp only [Cursor.tree?, dropBytes?_offsetOf h, hfound, hstart, Option.bind_eq_bind,
    Option.bind_some]

theorem tag?_of_skipped {here mark : List Char} {tree : Tree} (h : here <:+ text)
    (hskipped : skippedEnd? here = some mark) :
    Cursor.tag? text rounds (offsetOf (byteLength text) here) tree =
      some (tree, offsetOf (byteLength text) (skipPast mark here)) := by
  simp only [Cursor.tag?, dropBytes?_offsetOf h, hskipped,
    skipPast?_offsetOf (ne_nil_of_skippedEnd? hskipped) h, Option.bind_eq_bind, Option.bind_some,
    Option.map_some]

theorem tag?_of_not_skipped {body : List Char} {tree : Tree} (h : '<' :: body <:+ text)
    (hskipped : skippedEnd? ('<' :: body) = none) :
    Cursor.tag? text rounds (offsetOf (byteLength text) ('<' :: body)) tree =
      if body.head? = some '/' then
        Cursor.endTag? text (offsetOf (byteLength text) ('<' :: body)) tree
      else Cursor.startTag? text rounds (offsetOf (byteLength text) ('<' :: body)) tree := by
  have hmark : endTagStart.isPrefixOf ('<' :: body) = true ↔ body.head? = some '/' := by
    rw [endTagStart_eq, isPrefixOf_pair_iff]
    exact and_iff_right rfl
  simp only [Cursor.tag?, dropBytes?_offsetOf h, hskipped, hmark, Option.bind_eq_bind,
    Option.bind_some]

/-- From any place on, the cursor reads the tags that stand there into the tree. -/
theorem tree?_offsetOf {tree : Tree} (htree : tree.Linked) (h : rest <:+ text)
    (hrounds : rest.length < rounds) :
    Cursor.tree? text rounds (offsetOf (byteLength text) rest) tree =
      some ((events (byteLength text) rest).foldl Tree.step tree) := by
  obtain ⟨rounds, rfl⟩ : ∃ n, rounds = n + 1 := ⟨rounds - 1, by omega⟩
  fun_induction events (byteLength text) rest generalizing rounds tree with
  | case1 rest hrest =>
      have hnone : find? ['<'] rest = none := by
        rw [find?_eq (List.cons_ne_nil '<' []), seek_singleton, hrest, if_pos rfl]
      simp only [Cursor.tree?, dropBytes?_offsetOf h, hnone, Option.bind_eq_bind, Option.bind_some]
      rfl
  | case2 rest c body hrest mark hskipped ih =>
      have hhere : c :: body <:+ text := hrest ▸ (List.dropWhile_suffix _).trans h
      have hlength := length_lt_of_dropWhile_eq hrest
      have hshorter := length_skipPast_lt (ne_nil_of_skippedEnd? hskipped) (List.cons_ne_nil c body)
      rw [List.length_cons] at hshorter
      obtain ⟨rounds, rfl⟩ : ∃ n, rounds = n + 1 := ⟨rounds - 1, by omega⟩
      rw [tree?_succ h hrest, tag?_of_skipped hhere hskipped, Option.bind_some]
      exact ih htree ((skipPast_suffix mark (c :: body)).trans hhere) rounds (by omega)
  | case3 rest c body hrest hskipped hslash name nameStop stop =>
      rename_i ih
      obtain rfl : c = '<' := eq_of_dropWhile_ne hrest
      have hhere : '<' :: body <:+ text := hrest ▸ (List.dropWhile_suffix _).trans h
      have hlength := length_lt_of_dropWhile_eq hrest
      rw [tree?_succ h hrest, tag?_of_not_skipped hhere hskipped, if_pos hslash]
      obtain ⟨later, rfl⟩ := List.head?_eq_some_iff.mp hslash
      have hshorter : stop.length ≤ later.length :=
        Nat.le_trans (length_skipPast_le _ _) (length_dropWhile_le _ _)
      have hstop : stop <:+ text := (skipPast_suffix _ _).trans
        ((List.dropWhile_suffix _).trans (suffix_of_append ['<', '/'] hhere))
      rw [List.length_cons] at hlength
      obtain ⟨rounds, rfl⟩ : ∃ n, rounds = n + 1 := ⟨rounds - 1, by omega⟩
      rw [endTag?_offsetOf htree hhere, Option.bind_some]
      exact ih htree.close hstop rounds (by omega)
  | case4 rest c body hrest hskipped hslash tail tag =>
      rename_i ih
      obtain rfl : c = '<' := eq_of_dropWhile_ne hrest
      have hhere : '<' :: body <:+ text := hrest ▸ (List.dropWhile_suffix _).trans h
      have hlength := length_lt_of_dropWhile_eq hrest
      have htail : tail.rest <:+ body := (openTail_suffix _ _).trans (List.dropWhile_suffix _)
      have hnext : (tagBody (byteLength text) tag.role tail).2 <:+ body :=
        (tagBody_suffix _ _ _).trans htail
      have hshorter := hnext.length_le
      obtain ⟨rounds, rfl⟩ : ∃ n, rounds = n + 1 := ⟨rounds - 1, by omega⟩
      have hbody : body.length < rounds + 1 := by omega
      rw [tree?_succ h hrest, tag?_of_not_skipped hhere hskipped, if_neg hslash,
        startTag?_offsetOf htree hhere hbody (rfl : _ = tail), Option.bind_some]
      exact ih htree.start (hnext.trans ((List.suffix_cons '<' body).trans hhere)) rounds (by omega)

/-- The scanner by offsets answers for every text, as soon as it may take more rounds than the text
has characters, and its answer is the document. -/
theorem document?_eq (path : Path) (text : String) (hrounds : text.toList.length < rounds) :
    Cursor.document? rounds path text.toList = some (document path text) := by
  have hempty : ({} : Tree).Linked := fun id hid => absurd hid List.not_mem_nil
  have htree := tree?_offsetOf hempty (List.suffix_refl text.toList) hrounds
  rw [offsetOf, Nat.sub_self] at htree
  rw [Cursor.document?, htree]
  rfl

end SymbolNav.Markup
