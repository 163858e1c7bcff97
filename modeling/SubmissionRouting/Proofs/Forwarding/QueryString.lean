import SubmissionRouting.Forwarding
import SubmissionRouting.Text.Hexadecimal
import SubmissionRouting.Proofs.FirstFault
import Mathlib.Data.String.Basic

/-! # Reading a query string

A query string is read as encoded forms are: it is divided at every `&` into pairs and each of them
at its first `=` into a name and a value, where `+` is a space and a percent sign with two
hexadecimal digits is a byte of the text in UTF-8 (`Text.readPairs?`). No separator is left in an
encoded text, and its bytes are read back one character after the other (`decodedBytes_encoded`), so
the reader finds the names and values that were written (`readPairs?_queryString`). -/

namespace SubmissionRouting.Text

/-! ### The reader -/

/-- The byte that two hexadecimal digits denote. -/
def hexByte? (a b : Char) : Option UInt8 := do
  pure (UInt8.ofNat (16 * (← hexValue? a) + (← hexValue? b)))

/-- The bytes that an encoded text stands for. A percent sign without two digits behind it stands for
itself, as every other character does but the plus sign. -/
def decodedBytes : List Char → List UInt8
  | [] => []
  | '%' :: a :: b :: cs =>
    match hexByte? a b with
    | some byte => byte :: decodedBytes cs
    | none => utf8Bytes '%' ++ decodedBytes (a :: b :: cs)
  | c :: cs => utf8Bytes (if c = '+' then ' ' else c) ++ decodedBytes cs

/-- The text that an encoded one stands for, if its bytes are a text in UTF-8. -/
def decodedText? (cs : List Char) : Option String :=
  String.fromUTF8? (decodedBytes cs).toByteArray

/-- A name and a value, divided at the first `=`. -/
def readPair? (cs : List Char) : Option (String × String) := do
  let name ← decodedText? (cs.takeWhile (· != '='))
  let value ← decodedText? ((cs.dropWhile (· != '=')).drop 1)
  pure (name, value)

/-- The pairs of a query string. An empty one has none. -/
def readPairs? (s : String) : Option (List (String × String)) :=
  if s = "" then some [] else (s.toList.splitOn '&').mapM readPair?

example : readPairs? "a=1&b+c=%c3%A9%2B=%" = some [("a", "1"), ("b c", "é+=%")] := by decide +kernel

/-! ### Bytes of texts -/

theorem toList_loop (bytes : ByteArray) (i : Nat) (read : List UInt8) :
    ByteArray.toList.loop bytes i read = read.reverse ++ bytes.data.toList.drop i := by
  fun_induction ByteArray.toList.loop bytes i read with
  | case1 i read hlt ih =>
    have hget (h : i < bytes.data.toList.length) : bytes.get! i = bytes.data.toList[i] :=
      getElem!_pos bytes.data i h
    rw [ih, List.drop_eq_getElem_cons hlt, hget hlt, List.reverse_cons, List.append_assoc]
    rfl
  | case2 i read hlt =>
    rw [List.drop_eq_nil_of_le (Nat.le_of_not_lt hlt), List.append_nil]

theorem utf8Bytes_eq (c : Char) : utf8Bytes c = String.utf8EncodeChar c := by
  rw [utf8Bytes, String.toUTF8_eq_toByteArray, String.toByteArray_singleton,
    List.utf8Encode_singleton, ByteArray.toList, toList_loop]
  exact List.toList_data_toByteArray

/-- **The bytes of its characters make up a text again.** -/
theorem fromUTF8?_utf8Bytes (s : String) :
    String.fromUTF8? (s.toList.flatMap utf8Bytes).toByteArray = some s := by
  have hbytes : (s.toList.flatMap utf8Bytes).toByteArray = s.toByteArray := by
    rw [funext utf8Bytes_eq]
    show s.toList.utf8Encode = _
    rw [← String.toByteArray_ofList, String.ofList_toList]
  rw [hbytes, String.fromUTF8?, dif_pos s.isValidUTF8]
  rfl

/-! ### Encoded texts -/

theorem hexByte?_percentByte (b : UInt8) :
    hexByte? (capitalHexDigit (b.toNat / 16)) (capitalHexDigit (b.toNat % 16)) = some b := by
  have hdigit : ∀ n < 16, hexValue? (capitalHexDigit n) = some n := by decide
  have hb : b.toNat < 256 := b.toNat_lt
  rw [hexByte?, hdigit _ (by omega), hdigit _ (by omega)]
  show some (UInt8.ofNat (16 * (b.toNat / 16) + b.toNat % 16)) = some b
  rw [Nat.div_add_mod, UInt8.ofNat_toNat]

theorem decodedBytes_percentBytes (bytes : List UInt8) (cs : List Char) :
    decodedBytes (bytes.flatMap percentByte ++ cs) = bytes ++ decodedBytes cs := by
  induction bytes with
  | nil => rfl
  | cons b bytes ih =>
    show decodedBytes ('%' :: capitalHexDigit (b.toNat / 16) :: capitalHexDigit (b.toNat % 16) ::
      (bytes.flatMap percentByte ++ cs)) = _
    rw [decodedBytes, hexByte?_percentByte]
    dsimp only
    rw [ih]
    rfl

theorem decodedBytes_cons {c : Char} (hc : c ≠ '%') (cs : List Char) :
    decodedBytes (c :: cs) = utf8Bytes (if c = '+' then ' ' else c) ++ decodedBytes cs := by
  rw [decodedBytes]
  rintro a b rest rfl
  exact absurd rfl hc

theorem decodedBytes_percentChar (c : Char) (cs : List Char) :
    decodedBytes (percentChar c ++ cs) = utf8Bytes c ++ decodedBytes cs := by
  unfold percentChar
  split_ifs with hplain hspace
  · have hpercent : c ≠ '%' := by rintro rfl; exact absurd hplain (by decide)
    have hplus : c ≠ '+' := by rintro rfl; exact absurd hplain (by decide)
    rw [List.singleton_append, decodedBytes_cons hpercent, if_neg hplus]
  · rw [List.singleton_append, decodedBytes_cons (by decide), if_pos rfl, hspace]
  · exact decodedBytes_percentBytes (utf8Bytes c) cs

theorem decodedBytes_encoded (cs : List Char) :
    decodedBytes (cs.flatMap percentChar) = cs.flatMap utf8Bytes := by
  induction cs with
  | nil => rfl
  | cons c cs ih =>
    rw [List.flatMap_cons, decodedBytes_percentChar, ih, List.flatMap_cons]

theorem decodedText?_percentEncoded (s : String) :
    decodedText? (percentEncoded s).toList = some s := by
  rw [percentEncoded, String.toList_ofList, decodedText?, decodedBytes_encoded,
    fromUTF8?_utf8Bytes]

theorem not_mem_percentEncoded {d : Char} (hplain : isUnreserved d = false)
    (hescape : d ≠ '+' ∧ d ≠ '%' ∧ ∀ n < 16, d ≠ capitalHexDigit n) (s : String) :
    d ∉ (percentEncoded s).toList := by
  obtain ⟨hplus, hpercent, hdigit⟩ := hescape
  rw [percentEncoded, String.toList_ofList]
  intro hd
  obtain ⟨c, -, hd⟩ := List.mem_flatMap.mp hd
  unfold percentChar at hd
  split_ifs at hd with hc
  · rw [List.mem_singleton.mp hd, hc] at hplain
    cases hplain
  · exact hplus (List.mem_singleton.mp hd)
  · obtain ⟨b, -, hd⟩ := List.mem_flatMap.mp hd
    have hb : b.toNat < 256 := b.toNat_lt
    rcases List.mem_cons.mp hd with hd | hd
    · exact hpercent hd
    rcases List.mem_cons.mp hd with hd | hd
    · exact hdigit _ (by omega) hd
    · exact hdigit _ (by omega) (List.mem_singleton.mp hd)

theorem ampersand_not_mem (s : String) : '&' ∉ (percentEncoded s).toList :=
  not_mem_percentEncoded (by decide) (by decide) s

theorem equals_not_mem (s : String) : '=' ∉ (percentEncoded s).toList :=
  not_mem_percentEncoded (by decide) (by decide) s

/-! ### Query strings -/

/-- The written form of a pair. -/
def pairText (p : String × String) : String := percentEncoded p.1 ++ "=" ++ percentEncoded p.2

theorem toList_pairText (p : String × String) :
    (pairText p).toList = (percentEncoded p.1).toList ++ '=' :: (percentEncoded p.2).toList := by
  rw [pairText, String.toList_append, String.toList_append, List.append_assoc]
  rfl

theorem readPair?_pairText (p : String × String) : readPair? (pairText p).toList = some p := by
  have hname : ∀ c ∈ (percentEncoded p.1).toList, (c != '=') = true :=
    fun c hc => bne_iff_ne.mpr fun h => equals_not_mem p.1 (h ▸ hc)
  have htake : (pairText p).toList.takeWhile (· != '=') = (percentEncoded p.1).toList := by
    rw [toList_pairText, List.takeWhile_append_of_pos hname, List.takeWhile_cons_of_neg (by decide),
      List.append_nil]
  have hdrop : (pairText p).toList.dropWhile (· != '=') = '=' :: (percentEncoded p.2).toList := by
    rw [toList_pairText, List.dropWhile_append_of_pos hname, List.dropWhile_cons_of_neg (by decide)]
  rw [readPair?, htake, hdrop, List.drop_one, List.tail_cons, decodedText?_percentEncoded,
    decodedText?_percentEncoded]
  rfl

theorem ampersand_not_mem_pairText (p : String × String) : '&' ∉ (pairText p).toList := by
  rw [toList_pairText, List.mem_append, List.mem_cons]
  rintro (h | h | h)
  · exact ampersand_not_mem p.1 h
  · exact absurd h (by decide)
  · exact ampersand_not_mem p.2 h

theorem pairText_ne_empty (p : String × String) : (pairText p).toList ≠ [] := by
  rw [toList_pairText]
  exact List.append_ne_nil_of_right_ne_nil _ (List.cons_ne_nil _ _)

theorem splitOn_queryString {pairs : List (String × String)} (h : pairs ≠ []) :
    (queryString pairs).toList.splitOn '&' = pairs.map fun p => (pairText p).toList := by
  have hchars : (queryString pairs).toList =
      ['&'].intercalate (pairs.map fun p => (pairText p).toList) := by
    rw [queryString, String.toList_intercalate, List.map_map]
    rfl
  rw [hchars]
  refine List.splitOn_intercalate '&' (fun l hl => ?_) (List.map_eq_nil_iff.not.mpr h)
  obtain ⟨p, -, rfl⟩ := List.mem_map.mp hl
  exact ampersand_not_mem_pairText p

theorem queryString_ne_empty (p : String × String) (pairs : List (String × String)) :
    queryString (p :: pairs) ≠ "" := by
  intro hempty
  have hsplit := splitOn_queryString (List.cons_ne_nil p pairs)
  rw [hempty, String.toList_empty, List.splitOn_nil, List.map_cons] at hsplit
  exact pairText_ne_empty p (List.cons.inj hsplit).1.symm

/-- **A query string is read back** as the pairs that it was made of. -/
theorem readPairs?_queryString (pairs : List (String × String)) :
    readPairs? (queryString pairs) = some pairs := by
  cases pairs with
  | nil => rfl
  | cons p pairs =>
    rw [readPairs?, if_neg (queryString_ne_empty p pairs),
      splitOn_queryString (List.cons_ne_nil p pairs), List.mapM_map]
    show (p :: pairs).mapM (fun q => readPair? (pairText q).toList) = _
    rw [funext readPair?_pairText]
    exact List.mapM_pure.trans (congrArg some (List.map_id _))

end SubmissionRouting.Text

namespace SubmissionRouting.Parameters

/-- Parameters whose names and values are texts. -/
def ofTexts (params : List (String × List String)) : Parameters :=
  params.map fun p => (.text p.1, p.2.map .text)

/-- The names with their values one by one: names in their order, and the values of each in theirs. -/
def textPairs (params : List (String × List String)) : List (String × String) :=
  params.flatMap fun p => p.2.map (p.1, ·)

theorem pairs_ofTexts (params : List (String × List String)) :
    pairs (ofTexts params) = (textPairs params).map fun p => (.text p.1, .text p.2) := by
  rw [pairs, ofTexts, textPairs, List.flatMap_map, List.map_flatMap]
  congr 1
  funext p
  rw [List.map_map, List.map_map]
  rfl

theorem queryString_ofTexts (params : List (String × List String)) :
    queryString (ofTexts params) = .ok (Text.queryString (textPairs params)) := by
  have hshown : (textPairs params).mapM (fun p => (pure p : Except Misuse (String × String))) =
      .ok (textPairs params) := List.mapM_pure.trans (congrArg Except.ok (List.map_id _))
  rw [queryString, pairs_ofTexts, List.mapM_map]
  exact congrArg (· >>= fun texts => pure (Text.queryString texts)) hshown

/-- **A query string loses nothing.** Parameters that are texts always have one, in which the names and
values are read again one by one; so two lists of parameters have the same query string if and only
if their names and values are the same, one by one. -/
theorem queryString_lossless (params other : List (String × List String)) :
    (∃ line, queryString (ofTexts params) = .ok line ∧
      Text.readPairs? line = some (textPairs params)) ∧
    (queryString (ofTexts params) = queryString (ofTexts other) ↔
      textPairs params = textPairs other) := by
  refine ⟨⟨_, queryString_ofTexts params, Text.readPairs?_queryString _⟩, ?_⟩
  rw [queryString_ofTexts, queryString_ofTexts]
  refine ⟨fun h => ?_, fun h => by rw [h]⟩
  have hread := congrArg Text.readPairs? (Except.ok.inj h)
  rw [Text.readPairs?_queryString, Text.readPairs?_queryString] at hread
  exact Option.some.inj hread

end SubmissionRouting.Parameters
