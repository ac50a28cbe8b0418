import Parley.Vendor.Gemini

namespace Parley

namespace Base64

def alphabet : List Char := "ABCDEFGHIJKLMNOPQRSTUVWXYZabcdefghijklmnopqrstuvwxyz0123456789+/".toList

def digit (value : Nat) : Char := alphabet.getD value '='

/-- Three bytes as a number of 24 bits, in four times six of them. What is missing from the last group counts as zero, and
sextets of nothing else are left out. -/
def sextets : List UInt8 → List Nat
  | a :: b :: c :: rest =>
      let group := a.toNat * 65536 + b.toNat * 256 + c.toNat
      group / 262144 :: group / 4096 % 64 :: group / 64 % 64 :: group % 64 :: sextets rest
  | [a, b] =>
      let group := a.toNat * 65536 + b.toNat * 256
      [group / 262144, group / 4096 % 64, group / 64 % 64]
  | [a] =>
      let group := a.toNat * 65536
      [group / 262144, group / 4096 % 64]
  | [] => []

def missing (bytes : List UInt8) : Nat := (3 - bytes.length % 3) % 3

def encodeList (bytes : List UInt8) : List Char := (sextets bytes).map digit ++ List.replicate (missing bytes) '='

def encode (text : String) : String := String.ofList (encodeList text.toUTF8.data.toList)

theorem sextet?_digit {value : Nat} (small : value < 64) : sextet? (digit value) = some value := by
  have each : ∀ value < 64, sextet? (digit value) = some value := by decide +kernel
  exact each value small

theorem sextet?_padding : sextet? '=' = none := by decide

theorem digit_ne_padding {value : Nat} (small : value < 64) : digit value ≠ '=' := by
  intro same
  have read := sextet?_digit small
  rw [same, sextet?_padding] at read
  cases read

theorem toNat_lt_of_sextet? {c : Char} {value : Nat} (read : sextet? c = some value) : c.toNat < 128 := by
  have below {last : Char} (within : c ≤ last) (ascii : last.toNat < 128) : c.toNat < 128 :=
    Nat.lt_of_le_of_lt (UInt32.le_iff_toNat_le.1 within) ascii
  unfold sextet? at read
  split at read
  next within => exact below (of_decide_eq_true (Bool.and_eq_true_iff.1 within).2) (by decide)
  next =>
    split at read
    next within => exact below (of_decide_eq_true (Bool.and_eq_true_iff.1 within).2) (by decide)
    next =>
      split at read
      next within => exact below (of_decide_eq_true (Bool.and_eq_true_iff.1 within).2) (by decide)
      next =>
        split at read
        next plus => exact plus ▸ by decide
        next =>
          split at read
          next slash => exact slash ▸ by decide
          next => cases read

theorem mem_alphabet_of_sextet? {c : Char} {value : Nat} (read : sextet? c = some value) : c ∈ alphabet := by
  have each : ∀ code < 128, (sextet? (Char.ofNat code)).isSome = true → Char.ofNat code ∈ alphabet := by decide +kernel
  have found := each c.toNat (toNat_lt_of_sextet? read)
  rw [Char.ofNat_toNat, read] at found
  exact found rfl

theorem sextets_lt (bytes : List UInt8) : ∀ value ∈ sextets bytes, value < 64 := by
  fun_induction sextets bytes with
  | case1 a b c rest group ih =>
    have first := a.toNat_lt
    have second := b.toNat_lt
    have third := c.toNat_lt
    simp only [List.forall_mem_cons]
    exact ⟨by omega, by omega, by omega, by omega, ih⟩
  | case2 a b group =>
    have first := a.toNat_lt
    have second := b.toNat_lt
    simp only [List.forall_mem_cons]
    exact ⟨by omega, by omega, by omega, by simp⟩
  | case3 a group =>
    have first := a.toNat_lt
    simp only [List.forall_mem_cons]
    exact ⟨by omega, by omega, by simp⟩
  | case4 => simp

theorem ofNat_of_eq (byte : UInt8) {value : Nat} (same : value = byte.toNat) : UInt8.ofNat value = byte := by
  rw [same, UInt8.ofNat_toNat]

theorem bytesOf_sextets (bytes : List UInt8) : bytesOf (sextets bytes) = bytes := by
  fun_induction sextets bytes with
  | case1 a b c rest group ih =>
    have first := a.toNat_lt
    have second := b.toNat_lt
    have third := c.toNat_lt
    rw [bytesOf, ih, ofNat_of_eq a (by omega), ofNat_of_eq b (by omega),
      ofNat_of_eq c (by omega)]
  | case2 a b group =>
    have first := a.toNat_lt
    have second := b.toNat_lt
    rw [bytesOf, ofNat_of_eq a (by omega), ofNat_of_eq b (by omega)]
  | case3 a group =>
    have first := a.toNat_lt
    rw [bytesOf, ofNat_of_eq a (by omega)]
  | case4 => rfl

theorem padded_add_four {digits padding : Nat} (complete : padded digits padding = true) :
    padded (digits + 4) padding = true := by
  unfold padded at complete ⊢
  rw [Nat.add_mod_right]
  split
  next => simp
  all_goals simp_all

theorem padded_sextets (bytes : List UInt8) : padded (sextets bytes).length (missing bytes) = true := by
  fun_induction sextets bytes with
  | case1 a b c rest group ih =>
    have same : missing (a :: b :: c :: rest) = missing rest := by
      simp only [missing, List.length_cons]
      omega
    rw [same]
    exact padded_add_four ih
  | case2 a b group => rfl
  | case3 a group => rfl
  | case4 => rfl

theorem mapM_sextet?_digit {values : List Nat} (small : ∀ value ∈ values, value < 64) :
    (values.map digit).mapM sextet? = some values := by
  induction values with
  | nil => rfl
  | cons value rest ih =>
    rw [List.map_cons, List.mapM_cons, sextet?_digit (small value List.mem_cons_self),
      ih fun other held => small other (List.mem_cons_of_mem _ held)]
    rfl

/-- What has been written is read again. -/
theorem decode?_encodeList (bytes : List UInt8) : decode? (encodeList bytes) = some bytes := by
  have digits : ∀ c ∈ (sextets bytes).map digit, decide (c ≠ '=') = true := by
    simp only [List.forall_mem_map, decide_eq_true_eq]
    exact fun value held => digit_ne_padding (sextets_lt bytes value held)
  have first : (encodeList bytes).takeWhile (fun c => c ≠ '=') = (sextets bytes).map digit := by
    rw [encodeList, List.takeWhile_append_of_pos digits]
    simp
  have rest : (encodeList bytes).dropWhile (fun c => c ≠ '=') = List.replicate (missing bytes) '=' := by
    rw [encodeList, List.dropWhile_append_of_pos digits]
    simp
  have padding : (List.replicate (missing bytes) '=').all (· = '=') = true := by simp [List.all_replicate]
  rw [decode?, first, rest, padding, List.length_map, List.length_replicate, padded_sextets, Bool.and_self, if_pos rfl,
    mapM_sextet?_digit (sextets_lt bytes), Option.map_some, bytesOf_sextets]

theorem mapM_sextet?_of_foreign {cs : List Char} {c : Char} (held : c ∈ cs) (foreign : c ∉ alphabet) :
    cs.mapM sextet? = none := by
  induction cs with
  | nil => cases held
  | cons first rest ih =>
    rw [List.mapM_cons]
    cases read : sextet? first with
    | none => rfl
    | some value =>
      obtain rfl | later := List.mem_cons.1 held
      · exact absurd (mem_alphabet_of_sextet? read) foreign
      · rw [ih later]
        rfl

theorem decode?_of_foreign {cs : List Char} {c : Char} (held : c ∈ cs) (foreign : c ∉ alphabet) (inked : c ≠ '=') :
    decode? cs = none := by
  rw [decode?]
  split
  next complete =>
    -- Behind a padding character there is nothing but padding, so the character stands among the digits.
    have padding : ∀ other ∈ cs.dropWhile (fun c => c ≠ '='), other = '=' := by
      simpa using (Bool.and_eq_true_iff.1 complete).1
    have among : c ∈ cs.takeWhile fun c => c ≠ '=' := by
      rw [← List.takeWhile_append_dropWhile (p := fun c => c ≠ '=') (l := cs), List.mem_append] at held
      exact held.resolve_right fun behind => inked (padding c behind)
    rw [mapM_sextet?_of_foreign among foreign]
    rfl
  next => rfl

theorem fromUTF8?_toUTF8 (text : String) : String.fromUTF8? text.toUTF8 = some text := by
  rw [String.fromUTF8?, String.toUTF8_eq_toByteArray, dif_pos text.isValidUTF8]
  rfl

theorem printable?_encode {text : String} (printable : Text.isPrintableText text = true) :
    printable? (encode text) = some text := by
  have decoded : (decode? (encode text).toList).bind (fun bytes => String.fromUTF8? ⟨bytes.toArray⟩) = some text := by
    rw [encode, String.toList_ofList, decode?_encodeList, Option.bind_some, Array.toArray_toList]
    exact fromUTF8?_toUTF8 text
  simp only [printable?, decoded, printable, if_true]

example : encode "Parley" = "UGFybGV5" ∧ encode "Parle" = "UGFybGU=" ∧ encode "Parl" = "UGFybA==" := by decide +kernel

end Base64

namespace Vendor.Gemini

/-- A printable text that has been written in Base64 is read as itself; a text with a character that is neither a digit nor
padding stays as it is, and so does every text with a colon. -/
theorem uriText_faithful (uri : String) :
    (Text.isPrintableText uri = true → uriText (Base64.encode uri) = uri) ∧
      (∀ c ∈ uri.toList, c ∉ Base64.alphabet → c ≠ '=' → uriText uri = uri) ∧
      (':' ∈ uri.toList → uriText uri = uri) := by
  have foreign (c : Char) (held : c ∈ uri.toList) (outside : c ∉ Base64.alphabet) (inked : c ≠ '=') :
      uriText uri = uri := by
    rw [uriText, Base64.printable?, Base64.decode?_of_foreign held outside inked]
    rfl
  refine ⟨fun printable => ?_, foreign, fun held => foreign ':' held (by decide) (by decide)⟩
  rw [uriText, Base64.printable?_encode printable]
  rfl

/-- A printable text with characters outside the alphabet, a colon among them: as it stands it stays, and written in Base64 it
is read. -/
theorem printable_uri_faithful :
    Text.isPrintableText "https://example.com/año" = true ∧
      uriText (Base64.encode "https://example.com/año") = "https://example.com/año" ∧
      'ñ' ∈ "https://example.com/año".toList ∧ 'ñ' ∉ Base64.alphabet ∧
      uriText "https://example.com/año" = "https://example.com/año" := by
  have printable : Text.isPrintableText "https://example.com/año" = true := by decide +kernel
  have held : 'ñ' ∈ "https://example.com/año".toList := by decide
  have foreign : 'ñ' ∉ Base64.alphabet := by decide
  obtain ⟨reads, stays, -⟩ := uriText_faithful "https://example.com/año"
  exact ⟨printable, reads printable, held, foreign, stays 'ñ' held foreign (by decide)⟩

end Vendor.Gemini

end Parley

