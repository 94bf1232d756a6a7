import EchoInjector.Text.Json
import EchoInjector.Proofs.Text.Denotation

/-!
# Reading JSON documents

A document is **read** as the value that it stands for, with any space between its parts and any
escapes in its texts. The reader goes beyond what is written here, but not as far as numbers other
than natural ones, lists, or characters that are escaped in two halves; it refuses these.

Every value that is written is read back (`read?_pretty`): so a document tells its value, whatever
texts are in it. The induction follows the reader, which may read one part less with each step. What
stands behind a value does not continue a number, and each part takes a character at least, so that
all parts are read by a reader that may read as many as there are characters.
-/

namespace EchoInjector.Text.Json

/-! ### The reader -/

/-- What may stand between the parts of a document. -/
def isSpace (c : Char) : Bool := c == ' ' || c == '\n' || c == '\r' || c == '\t'

/-- What stands behind the space. -/
def skip (cs : List Char) : List Char := cs.dropWhile isSpace

/-- What stands behind a certain character and the space before it. -/
def expect? (c : Char) (cs : List Char) : Option (List Char) :=
  match skip cs with
  | [] => none
  | d :: rest => if d = c then some rest else none

/-- The character that stands behind a backslash for another one. -/
def escaped? : Char → Option Char
  | '"' => some '"'
  | '\\' => some '\\'
  | '/' => some '/'
  | 'n' => some '\n'
  | 'r' => some '\r'
  | 't' => some '\t'
  | 'b' => some (Char.ofNat 8)
  | 'f' => some (Char.ofNat 12)
  | _ => none

/-- The character with a number in hexadecimal digits. -/
def numbered? (cs : List Char) : Option Char :=
  if (cs.all fun c => (digitValue? 16 c).isSome) = true ∧ (valueFrom 16 0 cs).isValidChar then
    some (Char.ofNat (valueFrom 16 0 cs))
  else none

/-- The characters of a text up to its quotation mark, and what stands behind it. -/
def readText : List Char → Option (List Char × List Char)
  | [] => none
  | '"' :: rest => some ([], rest)
  | '\\' :: 'u' :: x₃ :: x₂ :: x₁ :: x₀ :: rest => do
    let c ← numbered? [x₃, x₂, x₁, x₀]
    let (cs, rest) ← readText rest
    return (c :: cs, rest)
  | '\\' :: x :: rest => do
    let c ← escaped? x
    let (cs, rest) ← readText rest
    return (c :: cs, rest)
  | c :: rest => do
    let (cs, rest) ← if c.toNat < 32 then none else readText rest
    return (c :: cs, rest)

/-- A natural number without leading zeros, and what stands behind it. -/
def readNumber (cs : List Char) : Option (Nat × List Char) :=
  let ds := cs.takeWhile Char.isDigit
  if ds ≠ [] ∧ (ds.head? = some '0' → ds = ['0']) then
    some (decimalValue ds, cs.dropWhile Char.isDigit)
  else none

/-- A word or a text, and what stands behind it. -/
def readWord : List Char → Option (Json × List Char)
  | 'n' :: 'u' :: 'l' :: 'l' :: rest => some (.null, rest)
  | 't' :: 'r' :: 'u' :: 'e' :: rest => some (.bool true, rest)
  | 'f' :: 'a' :: 'l' :: 's' :: 'e' :: rest => some (.bool false, rest)
  | '"' :: rest => (readText rest).map fun (s, rest) => (.text (String.ofList s), rest)
  | _ => none

/-- A value other than an object, and what stands behind it. -/
def readScalar (cs : List Char) : Option (Json × List Char) :=
  match readNumber cs with
  | some (n, rest) => some (.number n, rest)
  | none => readWord cs

mutual

/-- A value with at most so many parts, and what stands behind it. -/
def readValue : Nat → List Char → Option (Json × List Char)
  | 0, _ => none
  | parts + 1, cs =>
    match expect? '{' cs with
    | none => readScalar (skip cs)
    | some inner =>
      match expect? '}' inner with
      | some rest => some (.object [], rest)
      | none => (readMembers parts inner).map fun (ms, rest) => (.object ms, rest)

/-- The members of an object that has some, up to its brace, and what stands behind it. -/
def readMembers : Nat → List Char → Option (List (String × Json) × List Char)
  | 0, _ => none
  | parts + 1, cs => do
    let (key, rest) ← readText (← expect? '"' cs)
    let (value, rest) ← readValue parts (← expect? ':' rest)
    match expect? ',' rest with
    | some rest => do
      let (ms, rest) ← readMembers parts rest
      return ((String.ofList key, value) :: ms, rest)
    | none => return ([(String.ofList key, value)], ← expect? '}' rest)

end

/-- The value of a document. It has no more parts than characters. -/
def read? (document : String) : Option Json := do
  let (v, rest) ← readValue document.toList.length document.toList
  if skip rest = [] then some v else none

/-! ### Space -/

theorem skip_cons_of_not {c : Char} (hc : isSpace c = false) (cs : List Char) :
    skip (c :: cs) = c :: cs := by
  rw [skip, List.dropWhile_cons_of_neg (by rw [hc]; decide)]

theorem skip_append {space : List Char} (hspace : ∀ c ∈ space, isSpace c = true)
    (cs : List Char) : skip (space ++ cs) = skip cs := by
  rw [skip, List.dropWhile_append_of_pos hspace, skip]

theorem isSpace_of_mem_newLine {level : Nat} {c : Char} (h : c ∈ newLine level) :
    isSpace c = true := by
  rw [newLine, List.mem_cons, List.mem_replicate] at h
  rcases h with rfl | ⟨-, rfl⟩ <;> rfl

theorem expect?_append {space : List Char} (hspace : ∀ c ∈ space, isSpace c = true) {c : Char}
    (cs : List Char) : expect? c (space ++ cs) = expect? c cs := by
  rw [expect?, skip_append hspace, expect?]

theorem expect?_newLine (level : Nat) (c : Char) (cs : List Char) :
    expect? c (newLine level ++ cs) = expect? c cs :=
  expect?_append (fun _ h => isSpace_of_mem_newLine h) cs

/-- A part of a document that is no space is found or missed at once. -/
theorem expect?_cons {d : Char} (hd : isSpace d = false) (c : Char) (cs : List Char) :
    expect? c (d :: cs) = if d = c then some cs else none := by
  rw [expect?, skip_cons_of_not hd]

/-! ### Texts -/

theorem numbered?_hex {n : Nat} (h : n < 32) :
    numbered? ['0', '0', digitChar (n / 16), digitChar (n % 16)] = some (Char.ofNat n) := by
  have hzero : digitValue? 16 '0' = some 0 := by decide
  have hhigh := digitValue?_digitChar 16 (Nat.le_refl 16) (n / 16) (by omega)
  have hlow := digitValue?_digitChar 16 (Nat.le_refl 16) (n % 16) (by omega)
  have hvalue : valueFrom 16 0 ['0', '0', digitChar (n / 16), digitChar (n % 16)] = n := by
    simp only [valueFrom, List.foldl_cons, List.foldl_nil, hzero, hhigh, hlow, Option.getD_some]
    omega
  have hdigits : (['0', '0', digitChar (n / 16), digitChar (n % 16)].all fun c =>
      (digitValue? 16 c).isSome) = true := by
    simp [hzero, hhigh, hlow]
  rw [numbered?, hvalue, if_pos ⟨hdigits, Or.inl (by omega)⟩]

/-- A character that needs no escape stands for itself. -/
theorem readText_cons {c : Char} (hquote : c ≠ '"') (hescape : c ≠ '\\')
    (hcontrol : ¬ c.toNat < 32) (rest : List Char) :
    readText (c :: rest) = (readText rest).map fun r => (c :: r.1, r.2) := by
  rw [readText.eq_5 _ _ hquote (fun _ _ _ _ _ h _ => hescape h) (fun _ _ h _ => hescape h),
    if_neg hcontrol]
  cases readText rest <;> rfl

/-- What stands behind a backslash stands for another character. -/
theorem readText_escaped {x c : Char} (hx : x ≠ 'u') (hc : escaped? x = some c)
    (rest : List Char) :
    readText ('\\' :: x :: rest) = (readText rest).map fun r => (c :: r.1, r.2) := by
  rw [readText.eq_4 _ _ (fun _ _ _ _ _ h _ => hx h), hc]
  cases readText rest <;> rfl

/-- **An escaped character is read back.** -/
theorem readText_escapeChar (c : Char) (rest : List Char) :
    readText (escapeChar c ++ rest) = (readText rest).map fun r => (c :: r.1, r.2) := by
  rw [escapeChar]
  split_ifs with hquote hbackslash hn hr ht hb hf hcontrol
  · exact readText_escaped (by decide) (by rw [hquote]; rfl) rest
  · exact readText_escaped (by decide) (by rw [hbackslash]; rfl) rest
  · exact readText_escaped (by decide) (by rw [hn]; rfl) rest
  · exact readText_escaped (by decide) (by rw [hr]; rfl) rest
  · exact readText_escaped (by decide) (by rw [ht]; rfl) rest
  · exact readText_escaped (by decide) (by rw [hb]; rfl) rest
  · exact readText_escaped (by decide) (by rw [hf]; rfl) rest
  · have hnumber := numbered?_hex hcontrol
    rw [Char.ofNat_toNat] at hnumber
    simp only [List.cons_append, List.nil_append, readText, hnumber]
    cases readText rest <;> rfl
  · exact readText_cons hquote hbackslash hcontrol rest

/-- **A text is read back**, up to its quotation mark. -/
theorem readText_quote (s : String) (rest : List Char) :
    readText (s.toList.flatMap escapeChar ++ '"' :: rest) = some (s.toList, rest) := by
  induction s.toList with
  | nil => rfl
  | cons c cs ih =>
    rw [List.flatMap_cons, List.append_assoc, readText_escapeChar, ih]
    rfl

/-! ### Numbers -/

/-- What stands behind a number **ends** it if it does not begin with a digit. -/
def EndsNumber (rest : List Char) : Prop := ∀ c ∈ rest.head?, c.isDigit = false

theorem endsNumber_cons {c : Char} (hc : c.isDigit = false) (cs : List Char) :
    EndsNumber (c :: cs) := by
  rintro d ⟨⟩
  exact hc

theorem endsNumber_newLine (level : Nat) (rest : List Char) :
    EndsNumber (newLine level ++ rest) :=
  endsNumber_cons (by decide) _

/-- **A number is read back.** -/
theorem readNumber_digits (n : Nat) {rest : List Char} (hrest : EndsNumber rest) :
    readNumber (digits 10 n ++ rest) = some (n, rest) := by
  obtain ⟨⟨hne, hdigits⟩, hvalue⟩ := isDecimal_digits n
  have htake : rest.takeWhile Char.isDigit = [] := by
    cases rest with
    | nil => rfl
    | cons c cs => exact List.takeWhile_cons_of_neg (by simp [hrest c rfl])
  have hdrop : rest.dropWhile Char.isDigit = rest := by
    cases rest with
    | nil => rfl
    | cons c cs => exact List.dropWhile_cons_of_neg (by simp [hrest c rfl])
  have hzero : (digits 10 n).head? = some '0' → digits 10 n = ['0'] := by
    obtain ⟨d, others, heq, hd, honly⟩ := exists_digits_eq_cons (by decide : 2 ≤ 10) n
    intro hhead
    rw [heq, List.head?_cons, Option.some_inj, digitChar_eq_zero_iff d (by omega)] at hhead
    obtain rfl := honly hhead
    exact digits_of_lt (by decide)
  rw [readNumber, List.takeWhile_append_of_pos hdigits, htake, List.append_nil,
    List.dropWhile_append_of_pos hdigits, hdrop, if_pos ⟨hne, hzero⟩, ← hvalue]

theorem readNumber_cons {c : Char} (hc : c.isDigit = false) (cs : List Char) :
    readNumber (c :: cs) = none := by
  rw [readNumber, List.takeWhile_cons_of_neg (by simp [hc])]
  rfl

/-! ### Values -/

/-- What does not begin with a brace is no object. -/
theorem readValue_cons {c : Char} (hspace : isSpace c = false) (hc : c ≠ '{') (parts : Nat)
    (cs : List Char) : readValue (parts + 1) (c :: cs) = readScalar (c :: cs) := by
  rw [readValue, expect?_cons hspace, if_neg hc, skip_cons_of_not hspace]

theorem readValue_digits (parts n : Nat) {rest : List Char} (hrest : EndsNumber rest) :
    readValue (parts + 1) (digits 10 n ++ rest) = some (.number n, rest) := by
  have hread := readNumber_digits n hrest
  obtain ⟨d, others, heq, hd, -⟩ := exists_digits_eq_cons (by decide : 2 ≤ 10) n
  have hspace : ∀ d < 10, isSpace (digitChar d) = false := by decide
  rw [heq, List.cons_append] at hread ⊢
  rw [readValue_cons (hspace d hd) (digitChar_ne (by omega) (by decide)), readScalar, hread]

/-- What begins neither with a brace nor with a digit is a word or a text. -/
theorem readValue_word {c : Char} (hspace : isSpace c = false) (hc : c ≠ '{')
    (hdigit : c.isDigit = false) (parts : Nat) (cs : List Char) :
    readValue (parts + 1) (c :: cs) = readWord (c :: cs) := by
  rw [readValue_cons hspace hc, readScalar, readNumber_cons hdigit]

theorem quote_append (s : String) (rest : List Char) :
    quote s ++ rest = '"' :: (s.toList.flatMap escapeChar ++ '"' :: rest) := by
  simp [quote]

theorem readValue_quote (parts : Nat) (s : String) (rest : List Char) :
    readValue (parts + 1) (quote s ++ rest) = some (.text s, rest) := by
  rw [quote_append, readValue_word (by decide) (by decide) (by decide), readWord, readText_quote]
  simp

/-- Space in front of a value does not matter. -/
theorem readValue_append {space : List Char} (hspace : ∀ c ∈ space, isSpace c = true)
    (parts : Nat) (cs : List Char) : readValue parts (space ++ cs) = readValue parts cs := by
  cases parts with
  | zero => rfl
  | succ parts => rw [readValue, expect?_append hspace, skip_append hspace, readValue]

/-! ### Members -/

theorem layOutMembers_single (level : Nat) (key : String) (value : Json) :
    layOutMembers level [(key, value)]
      = newLine level ++ (quote key ++ ':' :: ' ' :: layOut level value) := by
  simp only [layOutMembers, List.append_assoc, List.cons_append, List.nil_append]

theorem layOutMembers_cons_cons (level : Nat) (key : String) (value : Json) (m : String × Json)
    (ms : List (String × Json)) :
    layOutMembers level ((key, value) :: m :: ms)
      = newLine level ++ (quote key ++ ':' :: ' ' ::
          (layOut level value ++ ',' :: layOutMembers level (m :: ms))) := by
  rw [layOutMembers]
  · simp only [List.append_assoc, List.cons_append, List.nil_append]
  · exact List.cons_ne_nil _ _

/-- Members do not begin with a brace. -/
theorem expect?_layOutMembers (level : Nat) (m : String × Json) (ms : List (String × Json))
    (rest : List Char) : expect? '}' (layOutMembers level (m :: ms) ++ rest) = none := by
  cases ms with
  | nil =>
    rw [layOutMembers_single, List.append_assoc, List.append_assoc, expect?_newLine, quote_append,
      expect?_cons (by decide), if_neg (by decide)]
  | cons m' ms =>
    rw [layOutMembers_cons_cons, List.append_assoc, List.append_assoc, expect?_newLine,
      quote_append, expect?_cons (by decide), if_neg (by decide)]

/-- A member is read, and behind it either more members or a brace. -/
theorem readMembers_member {parts level : Nat} {key : String} {value : Json}
    {text rest : List Char} (hvalue : readValue parts (text ++ rest) = some (value, rest)) :
    readMembers (parts + 1) (newLine level ++ (quote key ++ ':' :: ' ' :: (text ++ rest)))
      = match expect? ',' rest with
        | some rest => (readMembers parts rest).map fun r => ((key, value) :: r.1, r.2)
        | none => (expect? '}' rest).map fun rest => ([(key, value)], rest) := by
  have hblank : ∀ c ∈ [' '], isSpace c = true := List.forall_mem_singleton.mpr rfl
  have hspace : readValue parts (' ' :: (text ++ rest)) = some (value, rest) := by
    rw [← List.singleton_append, readValue_append hblank, hvalue]
  rw [readMembers, expect?_newLine, quote_append, expect?_cons (by decide), if_pos rfl]
  simp only [Option.bind_eq_bind, Option.bind_some, readText_quote, String.ofList_toList]
  rw [expect?_cons (by decide), if_pos rfl, Option.bind_some, hspace, Option.bind_some]
  cases expect? ',' rest with
  | none =>
    dsimp only
    cases expect? '}' rest <;> rfl
  | some rest =>
    dsimp only
    cases readMembers parts rest <;> rfl

/-! ### Documents -/

mutual

/-- **A value that is laid out is read back.** -/
theorem readValue_layOut (v : Json) (level : Nat) {parts : Nat} {rest : List Char}
    (hparts : (layOut level v).length < parts) (hrest : EndsNumber rest) :
    readValue parts (layOut level v ++ rest) = some (v, rest) := by
  obtain ⟨parts, rfl⟩ := Nat.exists_eq_add_one_of_ne_zero (Nat.ne_zero_of_lt hparts)
  match v with
  | .null | .bool true | .bool false =>
    rw [layOut]
    exact readValue_word (by decide) (by decide) (by decide) _ _
  | .number n =>
    rw [layOut]
    exact readValue_digits parts n hrest
  | .text s =>
    rw [layOut]
    exact readValue_quote parts s rest
  | .object [] => rfl
  | .object (m :: ms) =>
    have hshort : (layOutMembers (level + 1) (m :: ms)).length < parts := by
      simp only [layOut, List.length_append, List.length_cons] at hparts
      omega
    have hmembers := readMembers_layOut m ms (level + 1) level hshort rest
    simp only [layOut, List.append_assoc, List.cons_append, List.nil_append]
    rw [readValue, expect?_cons (by decide), if_pos rfl]
    simp only [expect?_layOutMembers, hmembers, Option.map_some]
termination_by parts

/-- So are the members of an object. -/
theorem readMembers_layOut (m : String × Json) (ms : List (String × Json)) (level outer : Nat)
    {parts : Nat} (hparts : (layOutMembers level (m :: ms)).length < parts) (rest : List Char) :
    readMembers parts (layOutMembers level (m :: ms) ++ (newLine outer ++ '}' :: rest))
      = some (m :: ms, rest) := by
  obtain ⟨parts, rfl⟩ := Nat.exists_eq_add_one_of_ne_zero (Nat.ne_zero_of_lt hparts)
  match m, ms with
  | (key, value), [] =>
    rw [layOutMembers_single] at hparts ⊢
    have hshort : (layOut level value).length < parts := by
      simp only [newLine, List.length_append, List.length_cons] at hparts
      omega
    have hvalue := readValue_layOut value level hshort (endsNumber_newLine outer ('}' :: rest))
    simp only [List.append_assoc, List.cons_append]
    rw [readMembers_member hvalue, expect?_newLine, expect?_newLine, expect?_cons (by decide),
      expect?_cons (by decide)]
    rfl
  | (key, value), m' :: ms =>
    rw [layOutMembers_cons_cons] at hparts ⊢
    simp only [newLine, List.length_append, List.length_cons] at hparts
    generalize hmore : layOutMembers level (m' :: ms) ++ (newLine outer ++ '}' :: rest) = more
    have hmembers : readMembers parts more = some (m' :: ms, rest) := by
      rw [← hmore]
      exact readMembers_layOut m' ms level outer (by omega) rest
    have hvalue : readValue parts (layOut level value ++ ',' :: more) = some (value, ',' :: more) :=
      readValue_layOut value level (by omega) (endsNumber_cons (by decide) more)
    simp only [List.append_assoc, List.cons_append, hmore]
    rw [readMembers_member hvalue, expect?_cons (by decide), if_pos rfl]
    simp only [hmembers, Option.map_some]
termination_by parts

end

/-- **A document is read back**, with the line end behind it. -/
theorem read?_pretty (v : Json) : read? (v.pretty ++ "\n") = some v := by
  have htext : (v.pretty ++ "\n").toList = layOut 0 v ++ ['\n'] := by simp [pretty]
  have hread : readValue (layOut 0 v ++ ['\n']).length (layOut 0 v ++ ['\n'])
      = some (v, ['\n']) :=
    readValue_layOut v 0 (by simp) (endsNumber_cons (by decide) [])
  rw [read?, htext, hread]
  rfl

/-- Space and escapes that are not written here are read as well. -/
example : read? "\x7b\"\\u0061\\/\" :10\t\x7d" = some (.object [("a/", .number 10)]) := by
  cbv

end EchoInjector.Text.Json
