import NodeCanvas.Url
import Mathlib.Data.List.TakeDrop
import Mathlib.Data.List.TakeWhile
/-!
# What a text becomes in the path of a URL

An address over HTTP with a slash and a text after it is read as the address first and the text
after it (`Url.IsAddress.parse_below`): the segments at the address are followed by the pieces of
the text, from which dots are resolved. A segment decodes to what the piece decodes to that it was
made from (`Percent.decodeBytes_encode`), and that is never longer than the piece.
-/

namespace NodeCanvas

/-! ## Cutting text -/

namespace Text

variable {separator : Char → Bool} {text : List Char}

theorem splitOn_cons_of_separator {c : Char} (h : separator c = true) (rest : List Char) :
    splitOn separator (c :: rest) = [] :: splitOn separator rest := by
  rw [splitOn, if_pos h]

theorem exists_splitOn (separator : Char → Bool) (text : List Char) :
    ∃ part parts, splitOn separator text = part :: parts := by
  cases text with
  | nil => exact ⟨_, _, rfl⟩
  | cons c rest =>
    rw [splitOn]
    split
    · exact ⟨_, _, rfl⟩
    · split <;> exact ⟨_, _, rfl⟩

theorem exists_splitOn_cons {c : Char} (h : separator c = false) (rest : List Char) :
    ∃ part parts, splitOn separator rest = part :: parts ∧
      splitOn separator (c :: rest) = (c :: part) :: parts := by
  obtain ⟨part, parts, hparts⟩ := exists_splitOn separator rest
  exact ⟨part, parts, hparts, by rw [splitOn, if_neg (by simp [h]), hparts]⟩

/-- A separator ends what stands before it. -/
theorem splitOn_append_cons {mark : Char} (h : separator mark = true) (front back : List Char) :
    splitOn separator (front ++ mark :: back) =
      splitOn separator front ++ splitOn separator back := by
  induction front with
  | nil => exact splitOn_cons_of_separator h back
  | cons c front ih =>
    rw [List.cons_append]
    cases hc : separator c with
    | true => rw [splitOn_cons_of_separator hc, splitOn_cons_of_separator hc, ih, List.cons_append]
    | false =>
      obtain ⟨part, parts, hparts, hcons⟩ := exists_splitOn_cons hc (front ++ mark :: back)
      obtain ⟨part', parts', hparts', hcons'⟩ := exists_splitOn_cons hc front
      rw [ih, hparts', List.cons_append, List.cons.injEq] at hparts
      rw [hcons, hcons', ← hparts.1, ← hparts.2, List.cons_append]

theorem splitOn_eq_singleton (h : ∀ c ∈ text, separator c = false) :
    splitOn separator text = [text] := by
  induction text with
  | nil => rfl
  | cons c text ih =>
    obtain ⟨part, parts, hparts, hcons⟩ := exists_splitOn_cons (h c (by simp)) text
    rw [ih fun d hd => h d (List.mem_cons_of_mem c hd), List.cons.injEq] at hparts
    rw [hcons, ← hparts.1, ← hparts.2]

/-- A part holds no separator, and its characters stand in the text in this order. -/
theorem sublist_of_mem_splitOn {part : List Char} (h : part ∈ splitOn separator text) :
    part.Sublist text ∧ ∀ c ∈ part, separator c = false := by
  induction text generalizing part with
  | nil =>
    obtain rfl : part = [] := by simpa [splitOn] using h
    exact ⟨List.Sublist.refl [], by simp⟩
  | cons c text ih =>
    cases hc : separator c with
    | true =>
      rw [splitOn_cons_of_separator hc, List.mem_cons] at h
      obtain rfl | h := h
      · exact ⟨List.nil_sublist _, by simp⟩
      · exact ⟨(ih h).1.cons c, (ih h).2⟩
    | false =>
      obtain ⟨first, others, hparts, hcons⟩ := exists_splitOn_cons hc text
      rw [hcons, List.mem_cons] at h
      obtain rfl | h := h
      · have hfirst := ih (hparts ▸ List.mem_cons_self)
        refine ⟨hfirst.1.cons_cons c, fun d hd => ?_⟩
        obtain rfl | hd := List.mem_cons.1 hd
        · exact hc
        · exact hfirst.2 d hd
      · have hother := ih (hparts ▸ List.mem_cons_of_mem first h)
        exact ⟨hother.1.cons c, hother.2⟩

end Text

/-! ## Escapes -/

namespace Percent

variable {c : Char}

/-- The byte that two digits at the start stand for, and what follows them. -/
def escape? : List Char → Option (UInt8 × List Char)
  | a :: b :: rest => do
    let high ← hexDigit? a
    let low ← hexDigit? b
    return (UInt8.ofNat (high * 16 + low), rest)
  | _ => none

theorem decodeBytes_cons_of_ne (h : c ≠ '%') (rest : List Char) :
    decodeBytes (c :: rest) = String.utf8EncodeChar c ++ decodeBytes rest := by
  rw [decodeBytes]
  intro a b rest' heq
  exact absurd heq h

theorem decodeBytes_of_escape? {rest left : List Char} {byte : UInt8}
    (h : escape? rest = some (byte, left)) :
    decodeBytes ('%' :: rest) = byte :: decodeBytes left := by
  rcases rest with _ | ⟨a, _ | ⟨b, rest⟩⟩
  · cases h
  · cases h
  · rw [escape?] at h
    rw [decodeBytes]
    cases ha : hexDigit? a <;> cases hb : hexDigit? b <;> simp_all

theorem decodeBytes_of_no_escape {rest : List Char} (h : escape? rest = none) :
    decodeBytes ('%' :: rest) = 37 :: decodeBytes rest := by
  rcases rest with _ | ⟨a, _ | ⟨b, rest⟩⟩
  · rfl
  · rfl
  · rw [escape?] at h
    rw [decodeBytes]
    cases ha : hexDigit? a <;> cases hb : hexDigit? b <;> simp_all

theorem hexDigit?_hexDigit : ∀ n < 16, hexDigit? (hexDigit n) = some n := by decide

theorem escape?_encodeByte (b : UInt8) (rest : List Char) :
    escape? (hexDigit (b.toNat / 16) :: hexDigit (b.toNat % 16) :: rest) = some (b, rest) := by
  have hb : b.toNat < 256 := b.toNat_lt
  have hsum : b.toNat / 16 * 16 + b.toNat % 16 = b.toNat := by omega
  rw [escape?, hexDigit?_hexDigit (b.toNat / 16) (by omega),
    hexDigit?_hexDigit (b.toNat % 16) (by omega)]
  change some (UInt8.ofNat (b.toNat / 16 * 16 + b.toNat % 16), rest) = some (b, rest)
  rw [hsum, UInt8.ofNat_toNat]

theorem decodeBytes_encodeBytes (bytes : List UInt8) (rest : List Char) :
    decodeBytes (bytes.flatMap encodeByte ++ rest) = bytes ++ decodeBytes rest := by
  induction bytes with
  | nil => rfl
  | cons b bytes ih =>
    rw [List.flatMap_cons, List.append_assoc, List.cons_append, ← ih]
    exact decodeBytes_of_escape? (escape?_encodeByte b _)

variable {reserved : Char → Bool}

theorem encode_cons_of_reserved (h : reserved c = true) (rest : List Char) :
    encode reserved (c :: rest) =
      (String.utf8EncodeChar c).flatMap encodeByte ++ encode reserved rest := by
  simp [encode, h]

theorem encode_cons_of_free (h : reserved c = false) (rest : List Char) :
    encode reserved (c :: rest) = c :: encode reserved rest := by
  simp [encode, h]

theorem length_utf8EncodeChar_pos (c : Char) : 0 < (String.utf8EncodeChar c).length := by
  rw [String.length_utf8EncodeChar]
  exact Char.utf8Size_pos c

theorem exists_encode_cons (h : reserved c = true) (rest : List Char) :
    ∃ left, encode reserved (c :: rest) = '%' :: left := by
  rw [encode_cons_of_reserved h]
  obtain ⟨b, bytes, hbytes⟩ := List.exists_cons_of_length_pos (length_utf8EncodeChar_pos c)
  rw [hbytes]
  exact ⟨_, rfl⟩

/-- Encoding makes and breaks no escape, if no digit is reserved. -/
theorem escape?_encode (h : ∀ c, reserved c = true → hexDigit? c = none) (text : List Char) :
    escape? (encode reserved text) =
      (escape? text).map fun e => (e.1, encode reserved e.2) := by
  have hpercent (rest : List Char) : escape? ('%' :: rest) = none := by
    cases rest <;> rfl
  have hsecond (a : Char) (rest : List Char) : escape? (a :: '%' :: rest) = none := by
    rw [escape?]
    cases hexDigit? a <;> rfl
  rcases text with _ | ⟨a, text⟩
  · rfl
  cases ha : reserved a with
  | true =>
    obtain ⟨left, hleft⟩ := exists_encode_cons ha text
    rw [hleft, hpercent]
    cases text with
    | nil => rfl
    | cons b rest => rw [escape?, h a ha]; rfl
  | false =>
    rw [encode_cons_of_free ha]
    rcases text with _ | ⟨b, rest⟩
    · rfl
    cases hb : reserved b with
    | true =>
      obtain ⟨left, hleft⟩ := exists_encode_cons hb rest
      rw [hleft, hsecond, escape?, h b hb]
      cases hexDigit? a <;> rfl
    | false =>
      rw [encode_cons_of_free hb, escape?, escape?]
      cases hexDigit? a <;> cases hexDigit? b <;> rfl

/-- Decoding what was encoded is decoding the text itself. -/
theorem decodeBytes_encode (h : ∀ c, reserved c = true → c ≠ '%' ∧ hexDigit? c = none)
    (text : List Char) : decodeBytes (encode reserved text) = decodeBytes text := by
  have hpercent : reserved '%' = false := by
    by_contra hreserved
    exact (h '%' (by simpa using hreserved)).1 rfl
  have hescape := escape?_encode fun c hc => (h c hc).2
  fun_induction decodeBytes text with
  | case1 => rfl
  | case2 a b rest high low ha hb ih =>
    rw [encode_cons_of_free hpercent, ← ih]
    refine decodeBytes_of_escape? ?_
    rw [hescape, escape?, ha, hb]
    rfl
  | case3 a b rest hdigits ih =>
    rw [encode_cons_of_free hpercent, ← ih]
    refine decodeBytes_of_no_escape ?_
    rw [hescape, escape?]
    cases ha : hexDigit? a <;> cases hb : hexDigit? b <;> simp_all
  | case4 c rest hover ih =>
    cases hc : reserved c with
    | true => rw [encode_cons_of_reserved hc, decodeBytes_encodeBytes, ih]
    | false =>
      rw [encode_cons_of_free hc, ← ih]
      by_cases heq : c = '%'
      · subst heq
        refine decodeBytes_of_no_escape ?_
        rw [hescape]
        rcases rest with _ | ⟨a, _ | ⟨b, rest⟩⟩
        · rfl
        · rfl
        · exact absurd rfl (hover a b rest rfl)
      · exact decodeBytes_cons_of_ne heq _

/-- The bytes of a text as it is. -/
def bytes (text : List Char) : List UInt8 := text.flatMap String.utf8EncodeChar

theorem length_decodeBytes_le (text : List Char) :
    (decodeBytes text).length ≤ (bytes text).length := by
  fun_induction decodeBytes text with
  | case1 => exact Nat.le_refl _
  | case2 a b rest high low ha hb ih =>
    have := length_utf8EncodeChar_pos '%'
    simp only [bytes, List.flatMap_cons, List.length_append, List.length_cons] at ih ⊢
    omega
  | case3 a b rest hdigits ih =>
    have := length_utf8EncodeChar_pos '%'
    simp only [bytes, List.flatMap_cons, List.length_append, List.length_cons] at ih ⊢
    omega
  | case4 c rest hover ih =>
    simp only [bytes, List.flatMap_cons, List.length_append] at ih ⊢
    omega

theorem bytes_of_decode? {segment : List Char} {text : String} (h : decode? segment = some text) :
    decodeBytes segment = bytes text.toList := by
  have htext : text.toByteArray = (bytes text.toList).toByteArray := by
    conv_lhs => rw [← String.ofList_toList (s := text)]
    exact String.toByteArray_ofList
  unfold decode? String.fromUTF8? at h
  split at h
  · cases h
    have hbytes : (decodeBytes segment).toByteArray = _ := htext
    simpa using congrArg ByteArray.data hbytes
  · cases h

theorem free_of_inPath (h : inPath c = true) : c ≠ '%' ∧ hexDigit? c = none := by
  simp only [inPath, inFragment, control, Bool.or_eq_true, decide_eq_true_eq, List.contains_iff_mem,
    List.mem_cons, List.not_mem_nil, or_false] at h
  obtain (hcontrol | rfl | rfl | rfl | rfl | rfl) | rfl | rfl | rfl | rfl := h
  · refine ⟨by rintro rfl; exact absurd hcontrol (by decide), ?_⟩
    have hrange (lower upper : Char) (hl : 0x20 ≤ lower.toNat) (hu : upper.toNat ≤ 0x7E) :
        ¬ (lower ≤ c ∧ c ≤ upper) := by
      rintro ⟨hlower, hupper⟩
      have := UInt32.le_iff_toNat_le.1 (Char.le_def.1 hlower)
      have := UInt32.le_iff_toNat_le.1 (Char.le_def.1 hupper)
      simp only [Char.toNat] at *
      omega
    rw [hexDigit?, if_neg (hrange _ _ (by decide) (by decide)),
      if_neg (hrange _ _ (by decide) (by decide)), if_neg (hrange _ _ (by decide) (by decide))]
  all_goals decide

/-- An encoded piece holds no question mark, and no slash but those of the piece. -/
theorem ne_of_mem_encode {text : List Char} (h : c ∈ encode inPath text) :
    c ≠ '?' ∧ (c = '/' → c ∈ text) := by
  have hdigit : ∀ n < 16, hexDigit n ≠ '?' ∧ hexDigit n ≠ '/' := by decide
  obtain ⟨d, hd, hc⟩ := List.mem_flatMap.1 h
  cases hreserved : inPath d with
  | true =>
    rw [if_pos hreserved] at hc
    obtain ⟨b, -, hc⟩ := List.mem_flatMap.1 hc
    have hb : b.toNat < 256 := b.toNat_lt
    have hhigh := hdigit (b.toNat / 16) (by omega)
    have hlow := hdigit (b.toNat % 16) (by omega)
    simp only [encodeByte, List.mem_cons, List.not_mem_nil, or_false] at hc
    obtain rfl | rfl | rfl := hc
    · exact ⟨by decide, fun h => by cases h⟩
    · exact ⟨hhigh.1, fun h => absurd h hhigh.2⟩
    · exact ⟨hlow.1, fun h => absurd h hlow.2⟩
  | false =>
    rw [if_neg (by simp [hreserved]), List.mem_singleton] at hc
    subst hc
    refine ⟨fun heq => ?_, fun _ => hd⟩
    subst heq
    exact absurd hreserved (by decide)

end Percent

/-! ## Reading a URL whose path goes on -/

namespace Url

variable {text : String} {c : Char}

/-- Whether a character is kept inside a text. -/
def isKept (c : Char) : Bool := c != '\t' && c != '\n' && c != '\r'

/-- A text without controls and blanks at its end. -/
def trimEnd (text : List Char) : List Char := (text.reverse.dropWhile (·.toNat ≤ 0x20)).reverse

theorem dropWhile_append_cons {p : Char → Bool} (h : p c = false) (front back : List Char) :
    (front ++ c :: back).dropWhile p = front.dropWhile p ++ c :: back := by
  rw [List.dropWhile_append]
  split
  · rename_i hempty
    rw [List.isEmpty_iff.1 hempty, List.nil_append, List.dropWhile_cons_of_neg (by simp [h])]
  · rfl

theorem span_append_cons {p : Char → Bool} (h : p c = false) (front back : List Char) :
    (front ++ c :: back).span p = (front.takeWhile p, front.dropWhile p ++ c :: back) := by
  rw [List.span_eq_takeWhile_dropWhile, dropWhile_append_cons h, List.takeWhile_append]
  split
  · rename_i hlength
    rw [List.takeWhile_cons_of_neg (by simp [h]), List.append_nil,
      (List.takeWhile_sublist p).eq_of_length hlength]
  · rfl

theorem trimEnd_append_cons (h : 0x20 < c.toNat) (front back : List Char) :
    trimEnd (front ++ c :: back) = front ++ c :: trimEnd back := by
  unfold trimEnd
  rw [List.reverse_append, List.reverse_cons, List.append_assoc, List.singleton_append,
    dropWhile_append_cons (by simpa using h)]
  simp

theorem clean_append_slash (front back : List Char) (h : text.toList = front ++ '/' :: back) :
    clean text = (front.dropWhile (·.toNat ≤ 0x20)).filter isKept ++
      '/' :: (trimEnd back).filter isKept := by
  have htrim := trimEnd_append_cons (c := '/') (by decide) (front.dropWhile (·.toNat ≤ 0x20)) back
  unfold clean
  rw [h]
  dsimp only
  rw [dropWhile_append_cons (by decide)]
  unfold trimEnd at htrim
  rw [htrim, List.filter_append]
  rfl

/-- A scheme ends before any slash. -/
theorem splitScheme_append_slash (front back : List Char) :
    splitScheme (front ++ '/' :: back) =
      (splitScheme front).map fun found => (found.1, found.2 ++ '/' :: back) := by
  rcases front with _ | ⟨c, front⟩
  · rfl
  rw [List.cons_append, splitScheme, splitScheme, ← List.cons_append,
    span_append_cons (by decide), List.span_eq_takeWhile_dropWhile]
  dsimp only
  generalize (c :: front).dropWhile (fun d => d.isAlphanum || d == '+' || d == '-' || d == '.') =
    left
  rcases left with _ | ⟨d, left⟩
  · rfl
  by_cases hcolon : d = ':'
  · subst hcolon
    dsimp only [List.cons_append]
    cases c.isAlpha <;> rfl
  · simp [hcolon]

/-- Whether a character ends a path. -/
def endsPath (c : Char) : Bool := c == '#' || c == '?'

theorem splitTail_fst (text : List Char) :
    (splitTail text).1 = text.takeWhile fun c => !endsPath c := by
  unfold splitTail
  rw [List.span_eq_takeWhile_dropWhile]
  dsimp only
  rw [List.span_eq_takeWhile_dropWhile, List.takeWhile_takeWhile]
  refine congrArg (List.takeWhile · text) (funext fun c => ?_)
  by_cases hhash : c = '#' <;> by_cases hquestion : c = '?' <;> simp [endsPath, hhash, hquestion]

/-- Without a query and a fragment, a text is all path. -/
theorem not_endsPath_of_splitTail {text : List Char} (hquery : (splitTail text).2.1 = none)
    (hfragment : (splitTail text).2.2 = none) : ∀ c ∈ text, endsPath c = false := by
  have hnil {part : List Char} (h : (if part.isEmpty then none else some part.tail) = none) :
      part = [] := by
    cases part with
    | nil => rfl
    | cons c rest => cases h
  unfold splitTail at hquery hfragment
  simp only [List.span_eq_takeWhile_dropWhile] at hquery hfragment
  have hhash := List.dropWhile_eq_nil_iff.1 (hnil hfragment)
  have hquestion := List.dropWhile_eq_nil_iff.1 (hnil hquery)
  rw [List.takeWhile_eq_self_iff.2 hhash] at hquestion
  intro c hc
  have := hhash c hc
  have := hquestion c hc
  simp_all [endsPath]

/-- A URL with another path, query and fragment. -/
def withTail (u : Url) (text : List Char) : Url :=
  { u with
    path := .segments (segments true (splitTail text).1)
    query := (splitTail text).2.1.map (encoded (Percent.inQuery true))
    fragment := (splitTail text).2.2.map (encoded Percent.inFragment) }

/-- An authority that ends at a slash does not depend on what follows. -/
theorem exists_withTail {scheme : String} {front : List Char} {u : Url}
    (h : ofAuthority scheme true ((front ++ ['/']).dropWhile isSlash) = .ok u) :
    u.host.isSome = true ∧
      ∃ lead, ∀ back, ofAuthority scheme true ((front ++ '/' :: back).dropWhile isSlash) =
        .ok (u.withTail (lead ++ '/' :: back)) := by
  rcases hfront : front.dropWhile isSlash with _ | ⟨c, rest⟩
  -- Nothing but slashes stands before the end, and there is no host.
  · rw [List.dropWhile_append, hfront] at h
    cases h
  have hdrop (back : List Char) :
      (front ++ '/' :: back).dropWhile isSlash = c :: rest ++ '/' :: back := by
    rw [List.dropWhile_append, hfront]
    rfl
  have hspan (back : List Char) := span_append_cons (c := '/')
    (p := fun c => !(c == '/' || c == '?' || c == '#' || c == '\\')) rfl (c :: rest) back
  unfold ofAuthority at h ⊢
  simp only [hdrop, Bool.true_and, Bool.true_or, Bool.and_true, if_true, hspan] at h ⊢
  generalize takePort _ _ = port at h ⊢
  generalize Host.ofText _ = host at h ⊢
  split at h
  · cases h
  · rename_i hnonempty
    rcases host with _ | host
    · cases h
    · rcases port with _ | ⟨port, left⟩
      · cases h
      · cases h
        refine ⟨rfl, left ++ (c :: rest).dropWhile
          fun c => !(c == '/' || c == '?' || c == '#' || c == '\\'), fun back => ?_⟩
        rw [if_neg hnonempty, List.append_assoc]
        rfl

theorem parse_of_splitScheme {scheme : String} {rest : List Char}
    (h : splitScheme (clean text) = some (scheme, rest))
    (hscheme : scheme = "http" ∨ scheme = "https") :
    parse text = ofAuthority scheme true (rest.dropWhile isSlash) := by
  unfold parse
  rw [h]
  obtain rfl | rfl := hscheme <;> rfl

/-! ### Segments -/

/-- Pieces that others follow leave some segments behind. -/
theorem exists_resolve_append (done : List String) (pieces : List (List Char)) :
    ∃ done', ∀ piece others,
      resolve done (pieces ++ piece :: others) = resolve done' (piece :: others) := by
  induction pieces generalizing done with
  | nil => exact ⟨done, fun _ _ => rfl⟩
  | cons first pieces ih =>
    have hlast (piece : List Char) (others : List (List Char)) :
        (pieces ++ piece :: others).isEmpty = false := by
      cases pieces <;> rfl
    simp only [List.cons_append, resolve, hlast, Bool.false_eq_true, if_false]
    split
    · exact ih _
    · split <;> exact ih _

/-- What stands above the first few segments is empty or comes from a piece. -/
theorem forall_drop_resolve {P : String → Prop} (hempty : P "") {n : Nat}
    {pieces : List (List Char)}
    (hpieces : ∀ piece ∈ pieces, isOneDot piece = false → isTwoDots piece = false →
      P (encoded Percent.inPath piece))
    {done : List String} (hdone : ∀ segment ∈ done.reverse.drop n, P segment) :
    ∀ segment ∈ (resolve done pieces).drop n, P segment := by
  have hpush {first : String} {others : List String} (hfirst : P first)
      (h : ∀ segment ∈ others.reverse.drop n, P segment) :
      ∀ segment ∈ (first :: others).reverse.drop n, P segment := by
    intro segment hsegment
    rw [List.reverse_cons, List.drop_append] at hsegment
    obtain hsegment | hsegment := List.mem_append.1 hsegment
    · exact h segment hsegment
    · exact List.mem_singleton.1 (List.mem_of_mem_drop hsegment) ▸ hfirst
  have hpop {others : List String} (h : ∀ segment ∈ others.reverse.drop n, P segment) :
      ∀ segment ∈ others.tail.reverse.drop n, P segment := by
    rcases others with _ | ⟨first, others⟩
    · exact h
    · intro segment hsegment
      refine h segment ?_
      rw [List.reverse_cons, List.drop_append]
      exact List.mem_append_left _ hsegment
  induction pieces generalizing done with
  | nil => exact hdone
  | cons piece pieces ih =>
    have hothers := fun other hother => hpieces other (List.mem_cons_of_mem piece hother)
    rw [resolve]
    split
    · refine ih hothers ?_
      split
      · exact hpush hempty (hpop hdone)
      · exact hpop hdone
    · rename_i htwo
      split
      · refine ih hothers ?_
        split
        · exact hpush hempty hdone
        · exact hdone
      · rename_i hone
        exact ih hothers (hpush
          (hpieces piece List.mem_cons_self (by simpa using hone) (by simpa using htwo)) hdone)

theorem resolve_of_no_dots (done : List String) {pieces : List (List Char)}
    (h : ∀ piece ∈ pieces, isOneDot piece = false ∧ isTwoDots piece = false) :
    resolve done pieces = done.reverse ++ pieces.map (encoded Percent.inPath) := by
  induction pieces generalizing done with
  | nil => simp [resolve]
  | cons piece pieces ih =>
    obtain ⟨hone, htwo⟩ := h piece List.mem_cons_self
    rw [resolve, if_neg (by simp [htwo]), if_neg (by simp [hone]),
      ih _ fun other hother => h other (List.mem_cons_of_mem piece hother)]
    simp [encoded]

/-- The segments of a path that goes on after a slash. -/
theorem exists_segments (lead : List Char) :
    ∃ done, ∀ path,
      segments true (lead ++ '/' :: path) = resolve done (Text.splitOn isSlash path) := by
  rcases lead with _ | ⟨c, lead⟩
  · exact ⟨[], fun path => rfl⟩
  · obtain ⟨done, hdone⟩ := exists_resolve_append [] (Text.splitOn isSlash lead)
    refine ⟨done, fun path => ?_⟩
    obtain ⟨part, parts, hparts⟩ := Text.exists_splitOn isSlash path
    have hslash : isSlash '/' = true := by decide
    rw [hparts, ← hdone, ← hparts, ← Text.splitOn_append_cons hslash]
    rfl

/-- A segment that does not end before it is over. -/
def Plain (segment : String) : Prop := ∀ c ∈ segment.toList, c ≠ '/' ∧ c ≠ '?'

theorem plain_encoded {piece : List Char} (h : ∀ c ∈ piece, isSlash c = false) :
    Plain (encoded Percent.inPath piece) := by
  intro c hc
  rw [encoded, String.toList_ofList] at hc
  obtain ⟨hquestion, hslash⟩ := Percent.ne_of_mem_encode hc
  refine ⟨fun heq => ?_, hquestion⟩
  have hpiece := h c (hslash heq)
  subst heq
  exact absurd hpiece (by decide)

theorem plain_segments (path : List Char) : ∀ segment ∈ segments true path, Plain segment := by
  have hempty : Plain "" := fun c hc => by cases hc
  rcases path with _ | ⟨c, path⟩
  · intro segment hsegment
    obtain rfl := List.mem_singleton.1 hsegment
    exact hempty
  · have hpieces : ∀ piece ∈ Text.splitOn isSlash path, isOneDot piece = false →
        isTwoDots piece = false → Plain (encoded Percent.inPath piece) :=
      fun piece hpiece _ _ => plain_encoded (Text.sublist_of_mem_splitOn hpiece).2
    have hnone : ∀ segment ∈ ([] : List String).reverse.drop 0, Plain segment := by simp
    have hall := forall_drop_resolve hempty hpieces hnone
    exact hall

/-! ### Addresses -/

/-- The text is an address over HTTP without a query and a fragment: with a slash at its end, it is
read as this URL. -/
structure IsAddress (base : String) (u : Url) : Prop where
  scheme : ∃ scheme rest, splitScheme (clean (base ++ "/")) = some (scheme, rest) ∧
    (scheme = "http" ∨ scheme = "https")
  parse : Url.parse (base ++ "/") = .ok u
  query : u.query = none
  fragment : u.fragment = none

/-- The segments before the last slash. -/
def mount (u : Url) : List String :=
  match u.path with
  | .segments parts => parts.dropLast
  | .text _ => []

/-- What comes into a path of a text, which may be the last in it: all before a mark that ends the
path, without line breaks and without blanks at the end. -/
def pathPart (atEnd : Bool) (text : List Char) : List Char :=
  ((bif atEnd then trimEnd text else text).filter isKept).takeWhile fun c => !endsPath c

/-- The pieces of a path that ends with a text. -/
def pieces (text : List Char) : List (List Char) := Text.splitOn isSlash (pathPart true text)

/-- The segments of a path go on below those that stand before a slash. -/
theorem segments_append_slash {lead : List Char} (h : ∀ c ∈ lead ++ ['/'], endsPath c = false)
    (back : List Char) :
    segments true (splitTail (lead ++ '/' :: back)).1 =
      resolve (segments true (lead ++ ['/'])).dropLast.reverse
        (Text.splitOn isSlash (back.takeWhile fun c => !endsPath c)) := by
  obtain ⟨done, hdone⟩ := exists_segments lead
  have hmount : (segments true (lead ++ ['/'])).dropLast = done.reverse := by
    rw [hdone, Text.splitOn, resolve_of_no_dots _ (by decide +kernel)]
    exact List.dropLast_concat
  rw [splitTail_fst, List.append_cons, List.takeWhile_append_of_pos fun c hc => by simp [h c hc],
    List.append_assoc, List.singleton_append, hdone, hmount, List.reverse_reverse]

/-- An address with a slash and a text after it is read as the address, and below it the text. -/
theorem IsAddress.parse_below {base : String} {u : Url} (h : IsAddress base u)
    (back : List Char) (htext : text.toList = base.toList ++ '/' :: back) :
    ∃ u', Url.parse text = .ok u' ∧ u'.host.isSome = true ∧
      u'.path = .segments (resolve u.mount.reverse (pieces back)) ∧
      ∀ part ∈ resolve u.mount.reverse (pieces back), Plain part := by
  obtain ⟨⟨scheme, rest, hsplit, hscheme⟩, hparse, hquery, hfragment⟩ := h
  rw [parse_of_splitScheme hsplit hscheme] at hparse
  rw [clean_append_slash base.toList [] (by simp), splitScheme_append_slash] at hsplit
  obtain ⟨⟨_, front⟩, hfront, heq⟩ := Option.map_eq_some_iff.1 hsplit
  cases heq
  obtain ⟨hhost, lead, hlead⟩ := exists_withTail hparse
  have hu : u = u.withTail (lead ++ ['/']) := Except.ok.inj (hparse.symm.trans (hlead []))
  rw [hu] at hquery hfragment
  have hmarks := not_endsPath_of_splitTail (Option.map_eq_none_iff.1 hquery)
    (Option.map_eq_none_iff.1 hfragment)
  have hmount : u.mount = (segments true (lead ++ ['/'])).dropLast := by
    rw [hu, mount, withTail, splitTail_fst,
      List.takeWhile_eq_self_iff.2 fun c hc => by simp [hmarks c hc]]
  have hparts := segments_append_slash hmarks ((trimEnd back).filter isKept)
  rw [← hmount] at hparts
  refine ⟨u.withTail (lead ++ '/' :: (trimEnd back).filter isKept), ?_, hhost,
    congrArg UrlPath.segments hparts, fun part hpart => plain_segments _ part (hparts ▸ hpart)⟩
  rw [← hlead, parse_of_splitScheme _ hscheme]
  rw [clean_append_slash base.toList back htext, splitScheme_append_slash, hfront]
  rfl

end Url

end NodeCanvas
