import SchemaVisibility.Json.Printer
import SchemaVisibility.Json.Reader
import SchemaVisibility.Proofs.Tables

/-! # Reading what was written

A value without decimals is read from the text that is written of it. `reread?` says what comes
back: the value itself, unless an integer is written with too many digits, which the reader refuses,
or an object has a name twice, of which the reader keeps the last value.

`Rereads` states that of one value with any text behind it. There is one lemma for each kind of
value; those for lists and objects take it of what stands in them. `parse?_print` is the result for
whole texts.
-/

namespace SchemaVisibility.Json

mutual

/-- Whether all that stands in a value, itself included, passes a test. -/
def everywhere (p : Json → Bool) : Json → Bool
  | .arr items => p (.arr items) && everywhereItems p items
  | .obj members => p (.obj members) && everywhereMembers p members
  | value => p value

/-- Whether all that stands in items passes a test. -/
def everywhereItems (p : Json → Bool) : List Json → Bool
  | [] => true
  | item :: rest => everywhere p item && everywhereItems p rest

/-- Whether all that stands in the values of members passes a test. -/
def everywhereMembers (p : Json → Bool) : List (String × Json) → Bool
  | [] => true
  | (_, value) :: rest => everywhere p value && everywhereMembers p rest

end

/-- Whether a value is something else than a decimal. -/
def isExact : Json → Bool
  | .decimal _ => false
  | _ => true

/-- How many digits an integer is written with. -/
def digitCount (value : Int) : Nat :=
  (Nat.toDigits 10 value.natAbs).length

/-- Whether a value comes back as it is if what stands in it does. -/
def readsBack : Json → Bool
  | .decimal _ => false
  | .int value => digitCount value ≤ maxDigits
  | .obj members => decide (Table.keys members).Nodup
  | _ => true

mutual

/-- What comes back of a value without decimals. -/
def reread? : Json → Option Json
  | .int value => if maxDigits < digitCount value then none else some (.int value)
  | .arr items => (rereadItems? items).map .arr
  | .obj members => (rereadMembers? members).map fun members => .obj (Table.ofList members)
  | value => some value

/-- What comes back of items. -/
def rereadItems? : List Json → Option (List Json)
  | [] => some []
  | item :: rest => do
    let item ← reread? item
    let items ← rereadItems? rest
    return item :: items

/-- What comes back of members, those with one name still side by side. -/
def rereadMembers? : List (String × Json) → Option (List (String × Json))
  | [] => some []
  | (name, value) :: rest => do
    let value ← reread? value
    let members ← rereadMembers? rest
    return (name, value) :: members

end

/-! ### Numbers -/

/-- What can follow a value: nothing, a comma, or a closing bracket or brace. -/
def Stops (rest : List Char) : Prop :=
  ∀ c ∈ rest.head?, c = ',' ∨ c = ']' ∨ c = '}'

variable {rest : List Char}

theorem eq_zero_of_digitChar : ∀ n < 10, n.digitChar = '0' → n = 0 := by
  decide

/-- Only the number zero is written with a leading zero. -/
theorem exists_toDigits_eq_cons (n : Nat) :
    ∃ c more, Nat.toDigits 10 n = c :: more ∧ (c = '0' → more = []) := by
  suffices h : ∃ c more, Nat.toDigits 10 n = c :: more ∧ (c = '0' → n = 0 ∧ more = []) by
    obtain ⟨c, more, hdigits, hzero⟩ := h
    exact ⟨c, more, hdigits, fun hc => (hzero hc).2⟩
  induction n using Nat.strongRecOn with
  | ind n ih =>
    rw [Nat.toDigits_eq_if (by decide)]
    split
    · next hless => exact ⟨_, [], rfl, fun hzero => ⟨eq_zero_of_digitChar n hless hzero, rfl⟩⟩
    · next hless =>
      obtain ⟨c, more, hdigits, hzero⟩ := ih (n / 10) (by omega)
      refine ⟨c, more ++ [(n % 10).digitChar], by rw [hdigits]; rfl, fun hc => ?_⟩
      have hquotient := (hzero hc).1
      omega

theorem Stops.isDigit_eq_false (h : Stops rest) : ∀ c ∈ rest.head?, c.isDigit = false := by
  intro c hc
  rcases h c hc with rfl | rfl | rfl <;> decide

theorem readDigits_append {digits : List Char} (hdigits : ∀ c ∈ digits, c.isDigit = true)
    (h : Stops rest) : readDigits (digits ++ rest) = (digits, rest) := by
  rw [readDigits, List.takeWhile_append_of_pos hdigits, List.dropWhile_append_of_pos hdigits]
  cases rest with
  | nil => simp
  | cons c rest =>
    have hc : ¬ c.isDigit = true := by simp [h.isDigit_eq_false c rfl]
    rw [List.takeWhile_cons_of_neg hc, List.dropWhile_cons_of_neg hc, List.append_nil]

theorem isDigit_of_mem_toDigits {n : Nat} {c : Char} (h : c ∈ Nat.toDigits 10 n) :
    c.isDigit = true :=
  Nat.isDigit_of_mem_toDigits (by decide) (by decide) h

theorem readWhole?_toDigits (n : Nat) (h : Stops rest) :
    readWhole? (Nat.toDigits 10 n ++ rest) = some (Nat.toDigits 10 n, rest) := by
  have hread := readDigits_append (fun c hc => isDigit_of_mem_toDigits (n := n) hc) h
  obtain ⟨c, more, hdigits, hzero⟩ := exists_toDigits_eq_cons n
  rw [hdigits] at hread ⊢
  unfold readWhole?
  split
  · next hsource =>
    obtain ⟨rfl, hmore⟩ := List.cons.inj hsource
    obtain rfl := hzero rfl
    obtain rfl : rest = _ := hmore
    rfl
  · rw [hread]

theorem readFraction_of_stops (h : Stops rest) : readFraction rest = ([], rest) := by
  unfold readFraction
  split
  · next more => exact absurd (h '.' rfl) (by decide)
  · rfl

theorem readExponent_of_stops (h : Stops rest) : readExponent rest = ([], rest) := by
  cases rest with
  | nil => rfl
  | cons c more =>
    have hmark : ¬ (c = 'e' ∨ c = 'E') := by
      rintro (rfl | rfl)
      · exact absurd (h 'e' rfl) (by decide)
      · exact absurd (h 'E' rfl) (by decide)
    unfold readExponent
    exact if_neg hmark

/-- An integer comes back unless it is written with too many digits. -/
theorem readNumber?_writeInt (value : Int) (h : Stops rest) :
    readNumber? (writeInt value ++ rest) =
      (reread? (.int value)).map fun value => (value, rest) := by
  have hfraction := readFraction_of_stops h
  have hexponent := readExponent_of_stops h
  rw [reread?, digitCount]
  cases value with
  | ofNat n =>
    obtain ⟨c, more, hdigits, -⟩ := exists_toDigits_eq_cons n
    have hsign : ∀ unsigned, Nat.toDigits 10 n ++ rest = '-' :: unsigned → False := by
      intro unsigned hsource
      rw [hdigits] at hsource
      obtain ⟨rfl, -⟩ := List.cons.inj hsource
      exact absurd (isDigit_of_mem_toDigits (hdigits ▸ List.mem_cons_self)) (by decide)
    rw [writeInt, readNumber?.eq_2 _ hsign, readWhole?_toDigits n h]
    simp only [Option.bind_eq_bind, Option.bind_some, hfraction, hexponent,
      Nat.ofDigitChars_ten_toDigits]
    change (if maxDigits < (Nat.toDigits 10 n).length then none else some (int n, rest)) =
      (if maxDigits < (Nat.toDigits 10 n).length then none else some (int n)).map _
    split <;> rfl
  | negSucc n =>
    rw [writeInt, List.cons_append, readNumber?, readWhole?_toDigits (n + 1) h]
    simp only [Option.bind_eq_bind, Option.bind_some, hfraction, hexponent,
      Nat.ofDigitChars_ten_toDigits]
    change (if maxDigits < (Nat.toDigits 10 (n + 1)).length then none
        else some (int (Int.negSucc n), rest)) =
      (if maxDigits < (Nat.toDigits 10 (n + 1)).length then none
        else some (int (Int.negSucc n))).map _
    split <;> rfl

/-! ### Words and numbers -/

theorem ne_of_isDigit {c d : Char} (hc : c.isDigit = true) (hd : d.isDigit = false) : d ≠ c := by
  rintro rfl
  rw [hc] at hd
  cases hd

theorem readPlain?_of_isDigit {c : Char} (hc : c.isDigit = true) :
    readPlain? (c :: rest) = readNumber? (c :: rest) := by
  rw [readPlain?]
  simp [words, after?, ne_of_isDigit hc]

theorem readPlain?_minus {c : Char} (hc : c.isDigit = true) :
    readPlain? ('-' :: c :: rest) = readNumber? ('-' :: c :: rest) := by
  rw [readPlain?]
  simp [words, after?, ne_of_isDigit hc]

theorem readValue?_of_plain {c : Char} (fuel : Nat) (hquote : c ≠ '"') (hbracket : c ≠ '[')
    (hbrace : c ≠ '{') : readValue? (fuel + 1) (c :: rest) = readPlain? (c :: rest) := by
  rw [readValue?]
  · simpa using hquote
  · simpa using hbracket
  · simpa using hbrace

/-- How a value comes back: it does not start like a blank or a closing bracket, and reading what
was written gives what is reread, whatever follows. -/
structure Rereads (value : Json) : Prop where
  starts : ∃ c more, write value = c :: more ∧ isBlank c = false ∧ c ≠ ']'
  reads : ∀ fuel rest, Stops rest → (write value).length ≤ fuel →
    readValue? fuel (write value ++ rest) = (reread? value).map fun value => (value, rest)

theorem rereads_null : Rereads .null where
  starts := ⟨'n', _, rfl, by decide, by decide⟩
  reads := by
    intro fuel rest _ hfuel
    cases fuel with
    | zero => cases hfuel
    | succ fuel => rfl

theorem rereads_bool (value : Bool) : Rereads (.bool value) := by
  cases value with
  | true =>
    refine ⟨⟨'t', _, rfl, by decide, by decide⟩, fun fuel rest _ hfuel => ?_⟩
    cases fuel with
    | zero => cases hfuel
    | succ fuel => rfl
  | false =>
    refine ⟨⟨'f', _, rfl, by decide, by decide⟩, fun fuel rest _ hfuel => ?_⟩
    cases fuel with
    | zero => cases hfuel
    | succ fuel => rfl

/-- An integer starts with a digit or a sign, and no word that is a value starts so. -/
theorem exists_writeInt_eq_cons (value : Int) :
    ∃ c more, writeInt value = c :: more ∧ (c.isDigit = true ∨ c = '-') ∧
      ∀ rest, readPlain? (c :: more ++ rest) = readNumber? (c :: more ++ rest) := by
  cases value with
  | ofNat n =>
    obtain ⟨c, more, hdigits, -⟩ := exists_toDigits_eq_cons n
    have hc : c.isDigit = true := isDigit_of_mem_toDigits (hdigits ▸ List.mem_cons_self)
    exact ⟨c, more, hdigits, Or.inl hc, fun _ => readPlain?_of_isDigit hc⟩
  | negSucc n =>
    obtain ⟨c, more, hdigits, -⟩ := exists_toDigits_eq_cons (n + 1)
    have hc : c.isDigit = true := isDigit_of_mem_toDigits (hdigits ▸ List.mem_cons_self)
    exact ⟨'-', c :: more, by rw [writeInt, hdigits], Or.inr rfl, fun _ => readPlain?_minus hc⟩

theorem rereads_int (value : Int) : Rereads (.int value) := by
  obtain ⟨c, more, hwrite, hc, hplain⟩ := exists_writeInt_eq_cons value
  have hne : ∀ d : Char, d.isDigit = false → d ≠ '-' → c ≠ d := by
    rintro d hd hminus rfl
    rcases hc with hc | rfl
    · exact ne_of_isDigit hc hd rfl
    · exact hminus rfl
  refine ⟨⟨c, more, hwrite, ?_, hne ']' (by decide) (by decide)⟩, fun fuel rest hrest hfuel => ?_⟩
  · have hblank := fun d hd hminus => beq_false_of_ne (hne d hd hminus)
    rw [isBlank, hblank ' ' (by decide) (by decide), hblank '\n' (by decide) (by decide),
      hblank '\t' (by decide) (by decide), hblank '\r' (by decide) (by decide)]
    rfl
  · rw [write, hwrite] at hfuel ⊢
    obtain ⟨fuel, rfl⟩ := Nat.exists_eq_add_one.mpr (Nat.lt_of_lt_of_le (Nat.succ_pos _) hfuel)
    rw [List.cons_append, readValue?_of_plain fuel (hne _ (by decide) (by decide))
      (hne _ (by decide) (by decide)) (hne _ (by decide) (by decide)), ← List.cons_append, hplain,
      ← hwrite, readNumber?_writeInt value hrest]

/-! ### Text, lists and objects -/

theorem rereads_str (text : String) : Rereads (.str text) where
  starts := ⟨'"', _, by rw [write]; rfl, by decide, by decide⟩
  reads := by
    intro fuel rest _ hfuel
    cases fuel with
    | zero => cases hfuel
    | succ fuel =>
      have hread := Quoted.read?_write text.toList rest
      rw [write]
      change (Quoted.read? ((Quoted.write text.toList).tail ++ rest)).map _ = _
      rw [hread]
      change some (Json.str (String.ofList text.toList), rest) = _
      rw [String.ofList_toList]
      rfl

theorem skipBlanks_cons {c : Char} (h : isBlank c = false) : skipBlanks (c :: rest) = c :: rest :=
  List.dropWhile_cons_of_neg (by simp [h])

theorem Rereads.skipBlanks_write {value : Json} (h : Rereads value) (text : List Char) :
    skipBlanks (write value ++ text) = write value ++ text := by
  obtain ⟨c, more, hwrite, hblank, -⟩ := h.starts
  rw [hwrite, List.cons_append, skipBlanks_cons hblank]

/-- After its first item a list goes on, or ends. -/
theorem writeItems_starts (items : List Json) (rest : List Char) :
    0 < (writeItems items).length ∧ Stops (writeItems items ++ rest) ∧
      skipBlanks (writeItems items ++ rest) = writeItems items ++ rest := by
  cases items with
  | nil => exact ⟨Nat.succ_pos _, by simp [Stops, writeItems], skipBlanks_cons (by decide)⟩
  | cons item items =>
    exact ⟨Nat.succ_pos _, by simp [Stops, writeItems], skipBlanks_cons (by decide)⟩

/-- After its first member an object goes on, or ends. -/
theorem writeMembers_starts (members : List (String × Json)) (rest : List Char) :
    0 < (writeMembers members).length ∧ Stops (writeMembers members ++ rest) ∧
      skipBlanks (writeMembers members ++ rest) = writeMembers members ++ rest := by
  cases members with
  | nil => exact ⟨Nat.succ_pos _, by simp [Stops, writeMembers], skipBlanks_cons (by decide)⟩
  | cons member members =>
    exact ⟨Nat.succ_pos _, by simp [Stops, writeMembers], skipBlanks_cons (by decide)⟩

/-- Reading items takes one of them off. -/
theorem readItems?_item {item : Json} {items : List Json} {fuel : Nat} (h : Rereads item)
    (hfuel : (write item).length + (writeItems items).length ≤ fuel + 1) (rest : List Char) :
    readItems? (fuel + 1) (write item ++ (writeItems items ++ rest)) =
      (reread? item).bind fun value =>
        match writeItems items ++ rest with
        | ']' :: rest => some ([value], rest)
        | ',' :: rest =>
          (readItems? fuel (skipBlanks rest)).bind fun more => some (value :: more.1, more.2)
        | _ => none := by
  obtain ⟨hlength, hstops, hskip⟩ := writeItems_starts items rest
  rw [readItems?, h.reads fuel _ hstops (by omega)]
  conv_rhs => rw [← hskip]
  cases reread? item with
  | none => rfl
  | some value => rfl

/-- Items come back from the text behind an opening bracket. -/
theorem readItems?_write {item : Json} {items : List Json}
    (h : ∀ other ∈ item :: items, Rereads other) (fuel : Nat) (rest : List Char)
    (hfuel : (write item).length + (writeItems items).length ≤ fuel + 1) :
    readItems? (fuel + 1) (write item ++ (writeItems items ++ rest)) =
      (rereadItems? (item :: items)).map fun items => (items, rest) := by
  induction items generalizing item fuel with
  | nil =>
    rw [readItems?_item (h item List.mem_cons_self) hfuel, rereadItems?]
    cases reread? item with
    | none => rfl
    | some value => rfl
  | cons next items ih =>
    have hothers : ∀ other ∈ next :: items, Rereads other :=
      fun other ho => h other (List.mem_cons_of_mem item ho)
    rw [readItems?_item (h item List.mem_cons_self) hfuel, rereadItems?]
    rw [writeItems, List.length_append, List.length_cons, List.length_cons] at hfuel
    obtain ⟨fuel, rfl⟩ : ∃ less, fuel = less + 1 := ⟨fuel - 1, by omega⟩
    have hmore : readItems? (fuel + 1) (skipBlanks (' ' :: (write next ++
        (writeItems items ++ rest)))) = _ :=
      (congrArg _ ((hothers next List.mem_cons_self).skipBlanks_write _)).trans
        (ih hothers fuel (by omega))
    cases reread? item with
    | none => rfl
    | some value =>
      simp only [Option.bind_eq_bind, Option.bind_some, writeItems, List.cons_append,
        List.append_assoc, hmore]
      cases rereadItems? (next :: items) with
      | none => rfl
      | some values => rfl

/-- Reading members takes one of them off. -/
theorem readMembers?_member {name : String} {value : Json} {members : List (String × Json)}
    {fuel : Nat} (h : Rereads value)
    (hfuel : (write value).length + (writeMembers members).length ≤ fuel + 1) (rest : List Char) :
    readMembers? (fuel + 1) (Quoted.write name.toList ++
        ':' :: ' ' :: (write value ++ (writeMembers members ++ rest))) =
      (reread? value).bind fun value =>
        match writeMembers members ++ rest with
        | '}' :: rest => some ([(name, value)], rest)
        | ',' :: rest =>
          (readMembers? fuel (skipBlanks rest)).bind fun more =>
            some ((name, value) :: more.1, more.2)
        | _ => none := by
  obtain ⟨hlength, hstops, hskip⟩ := writeMembers_starts members rest
  have hname := Quoted.read?_write name.toList
    (':' :: ' ' :: (write value ++ (writeMembers members ++ rest)))
  have hblank : skipBlanks (' ' :: (write value ++ (writeMembers members ++ rest))) =
      write value ++ (writeMembers members ++ rest) := h.skipBlanks_write _
  rw [Quoted.write, List.cons_append, List.tail_cons] at hname
  rw [Quoted.write, List.cons_append, List.cons_append, readMembers?, hname]
  simp only [Option.bind_eq_bind, Option.bind_some, String.ofList_toList, hblank,
    skipBlanks_cons (show isBlank ':' = false by decide), h.reads fuel _ hstops (by omega)]
  conv_rhs => rw [← hskip]
  cases reread? value with
  | none => rfl
  | some value => rfl

/-- Members come back from the text behind an opening brace. -/
theorem readMembers?_write {entry : String × Json} {members : List (String × Json)}
    (h : ∀ other ∈ entry :: members, Rereads other.2) (fuel : Nat) (rest : List Char)
    (hfuel : (write entry.2).length + (writeMembers members).length ≤ fuel + 1) :
    readMembers? (fuel + 1) (Quoted.write entry.1.toList ++
        ':' :: ' ' :: (write entry.2 ++ (writeMembers members ++ rest))) =
      (rereadMembers? (entry :: members)).map fun members => (members, rest) := by
  induction members generalizing entry fuel with
  | nil =>
    rw [readMembers?_member (h entry List.mem_cons_self) hfuel, rereadMembers?]
    cases reread? entry.2 with
    | none => rfl
    | some value => rfl
  | cons next members ih =>
    have hothers : ∀ other ∈ next :: members, Rereads other.2 :=
      fun other ho => h other (List.mem_cons_of_mem entry ho)
    rw [readMembers?_member (h entry List.mem_cons_self) hfuel, rereadMembers?]
    simp only [writeMembers, List.length_append, List.length_cons] at hfuel
    obtain ⟨fuel, rfl⟩ : ∃ less, fuel = less + 1 := ⟨fuel - 1, by omega⟩
    have hmore : readMembers? (fuel + 1) (skipBlanks (' ' :: (Quoted.write next.1.toList ++
        ':' :: ' ' :: (write next.2 ++ (writeMembers members ++ rest))))) = _ :=
      ih hothers fuel (by omega)
    cases reread? entry.2 with
    | none => rfl
    | some value =>
      simp only [Option.bind_eq_bind, Option.bind_some, writeMembers, List.cons_append,
        List.append_assoc, hmore]
      cases rereadMembers? (next :: members) with
      | none => rfl
      | some values => rfl

theorem rereads_arr {items : List Json} (h : ∀ item ∈ items, Rereads item) :
    Rereads (.arr items) := by
  cases items with
  | nil =>
    refine ⟨⟨'[', _, by rw [write], by decide, by decide⟩, fun fuel rest _ hfuel => ?_⟩
    cases fuel with
    | zero => cases hfuel
    | succ fuel => rfl
  | cons item items =>
    refine ⟨⟨'[', _, by rw [write]; rfl, by decide, by decide⟩, fun fuel rest _ hfuel => ?_⟩
    have hlength := (writeItems_starts items rest).1
    rw [write, List.length_append, List.length_cons] at hfuel
    obtain ⟨fuel, rfl⟩ : ∃ less, fuel = less + 2 := ⟨fuel - 2, by omega⟩
    have hitems := readItems?_write h fuel rest (by omega)
    obtain ⟨c, more, hwrite, hblank, hclose⟩ := (h item List.mem_cons_self).starts
    rw [hwrite, List.cons_append] at hitems
    rw [write, hwrite, reread?]
    simp only [List.cons_append, List.append_assoc]
    rw [readValue?, skipBlanks_cons hblank]
    split
    · next hsource => exact absurd (List.cons.inj hsource).1 hclose
    · rw [hitems]
      cases rereadItems? (item :: items) with
      | none => rfl
      | some values => rfl

theorem rereads_obj {members : List (String × Json)} (h : ∀ member ∈ members, Rereads member.2) :
    Rereads (.obj members) := by
  cases members with
  | nil =>
    refine ⟨⟨'{', _, by rw [write], by decide, by decide⟩, fun fuel rest _ hfuel => ?_⟩
    cases fuel with
    | zero => cases hfuel
    | succ fuel => rfl
  | cons member members =>
    obtain ⟨name, value⟩ := member
    refine ⟨⟨'{', _, by rw [write]; rfl, by decide, by decide⟩, fun fuel rest _ hfuel => ?_⟩
    have hlength := (writeMembers_starts members rest).1
    simp only [write, List.length_append, List.length_cons] at hfuel
    obtain ⟨fuel, rfl⟩ : ∃ less, fuel = less + 2 := ⟨fuel - 2, by omega⟩
    have hmembers := readMembers?_write h fuel rest (by dsimp only; omega)
    have hquote : isBlank '"' = false := by decide
    rw [write, reread?]
    simp only [Quoted.write, List.cons_append, List.append_assoc] at hmembers ⊢
    rw [readValue?, skipBlanks_cons hquote]
    split
    · next hsource => exact absurd (List.cons.inj hsource).1 (by decide)
    · rw [hmembers]
      cases rereadMembers? ((name, value) :: members) with
      | none => rfl
      | some values => rfl

mutual

/-- **A value without decimals comes back** from what is written of it. -/
theorem rereads_of_isExact : ∀ value : Json, value.everywhere isExact = true → Rereads value
  | .null, _ => rereads_null
  | .bool value, _ => rereads_bool value
  | .int value, _ => rereads_int value
  | .str text, _ => rereads_str text
  | .arr items, h => by
    rw [everywhere, Bool.and_eq_true] at h
    exact rereads_arr (rereads_of_isExact_items items h.2)
  | .obj members, h => by
    rw [everywhere, Bool.and_eq_true] at h
    exact rereads_obj (rereads_of_isExact_members members h.2)

theorem rereads_of_isExact_items : ∀ items : List Json, everywhereItems isExact items = true →
    ∀ item ∈ items, Rereads item
  | [], _, _, hmem => nomatch hmem
  | item :: items, h, other, hmem => by
    rw [everywhereItems, Bool.and_eq_true] at h
    obtain ⟨hitem, hitems⟩ := h
    rcases List.mem_cons.mp hmem with heq | hmem
    · exact heq ▸ rereads_of_isExact item hitem
    · exact rereads_of_isExact_items items hitems other hmem

theorem rereads_of_isExact_members : ∀ members : List (String × Json),
    everywhereMembers isExact members = true → ∀ member ∈ members, Rereads member.2
  | [], _, _, hmem => nomatch hmem
  | (name, value) :: members, h, other, hmem => by
    rw [everywhereMembers, Bool.and_eq_true] at h
    obtain ⟨hvalue, hmembers⟩ := h
    rcases List.mem_cons.mp hmem with heq | hmem
    · exact heq ▸ rereads_of_isExact value hvalue
    · exact rereads_of_isExact_members members hmembers other hmem

end

/-! ### Whole texts -/

/-- **What is written of a value without decimals** is read as what is reread of the value. -/
theorem parse?_print {value : Json} (h : value.everywhere isExact = true) :
    parse? value.print = reread? value := by
  obtain ⟨hstarts, hreads⟩ := rereads_of_isExact value h
  have hskip := Rereads.skipBlanks_write ⟨hstarts, hreads⟩ []
  have hread := hreads (2 * (write value).length + 1) [] nofun (by omega)
  rw [List.append_nil] at hskip hread
  rw [parse?, print, String.toList_ofList, hskip, hread]
  cases reread? value with
  | none => rfl
  | some value => rfl

mutual

/-- A value in which all comes back is without decimals. -/
theorem isExact_of_readsBack : ∀ value : Json, value.everywhere readsBack = true →
    value.everywhere isExact = true ∧ reread? value = some value
  | .null, _ => ⟨rfl, rfl⟩
  | .bool _, _ => ⟨rfl, rfl⟩
  | .int value, h => by
    have h : digitCount value ≤ maxDigits := of_decide_eq_true h
    refine ⟨rfl, ?_⟩
    rw [reread?, if_neg (Nat.not_lt.mpr h)]
  | .str _, _ => ⟨rfl, rfl⟩
  | .arr items, h => by
    rw [everywhere, Bool.and_eq_true] at h
    obtain ⟨hexact, hback⟩ := isExact_of_readsBack_items items h.2
    rw [everywhere, reread?, hexact, hback]
    exact ⟨rfl, rfl⟩
  | .obj members, h => by
    rw [everywhere, Bool.and_eq_true] at h
    obtain ⟨hexact, hback⟩ := isExact_of_readsBack_members members h.2
    rw [readsBack, decide_eq_true_eq] at h
    rw [everywhere, reread?, hexact, hback, Option.map_some, Table.ofList_of_nodup h.1]
    exact ⟨rfl, rfl⟩

theorem isExact_of_readsBack_items : ∀ items : List Json, everywhereItems readsBack items = true →
    everywhereItems isExact items = true ∧ rereadItems? items = some items
  | [], _ => ⟨rfl, rfl⟩
  | item :: items, h => by
    rw [everywhereItems, Bool.and_eq_true] at h
    obtain ⟨hexact, hback⟩ := isExact_of_readsBack item h.1
    obtain ⟨hexacts, hbacks⟩ := isExact_of_readsBack_items items h.2
    rw [everywhereItems, rereadItems?, hexact, hback, hexacts, hbacks]
    exact ⟨rfl, rfl⟩

theorem isExact_of_readsBack_members : ∀ members : List (String × Json),
    everywhereMembers readsBack members = true →
      everywhereMembers isExact members = true ∧ rereadMembers? members = some members
  | [], _ => ⟨rfl, rfl⟩
  | (name, value) :: members, h => by
    rw [everywhereMembers, Bool.and_eq_true] at h
    obtain ⟨hexact, hback⟩ := isExact_of_readsBack value h.1
    obtain ⟨hexacts, hbacks⟩ := isExact_of_readsBack_members members h.2
    rw [everywhereMembers, rereadMembers?, hexact, hback, hexacts, hbacks]
    exact ⟨rfl, rfl⟩

end

end SchemaVisibility.Json
