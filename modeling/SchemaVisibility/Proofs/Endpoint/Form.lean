import SchemaVisibility.Endpoint.Form
import SchemaVisibility.Proofs.Fallible

/-! # Reading a form that was written

What is escaped holds neither the mark between fields nor the one between a name and its value
(`ne_of_mem_escape`). So a form that was written falls into its fields again, and each of them into
its name and its value. Unless it has more fields than a form may have, it is read as the values
that were written, grouped by their names (`read_write`).
-/

namespace SchemaVisibility.Endpoint.Form

open Text

theorem upperDigit_ne : ∀ n < 16, Percent.upperDigit n ≠ '&' ∧ Percent.upperDigit n ≠ '=' := by
  decide

/-- No mark between fields, and none between a name and its value, is in what is escaped. -/
theorem ne_of_mem_escape {text : List Char} {c : Char} (h : c ∈ Percent.escape text) :
    c ≠ '&' ∧ c ≠ '=' := by
  obtain ⟨d, _, hd⟩ := List.mem_flatMap.mp h
  unfold Percent.escapeChar at hd
  split at hd
  · rw [List.mem_singleton.mp hd]
    decide
  split at hd
  · next hfree =>
    rw [List.mem_singleton.mp hd]
    constructor
    · rintro rfl
      revert hfree
      decide
    · rintro rfl
      revert hfree
      decide
  · obtain ⟨byte, _, hbyte⟩ := List.mem_flatMap.mp hd
    have hless : byte.toNat < 256 := byte.toNat_lt
    simp only [Percent.escapeByte, List.mem_cons, List.not_mem_nil, or_false] at hbyte
    rcases hbyte with rfl | rfl | rfl
    · decide
    · exact upperDigit_ne _ (by omega)
    · exact upperDigit_ne _ (by omega)

theorem readText_escape (text : String) :
    readText .utf8 (Percent.escape text.toList) = .ok text := by
  rw [readText, Percent.readEscapes_escape]
  exact congrArg Except.ok String.ofList_toList

/-- A field that was written is read as its name and its value. -/
theorem readField_writeField (name value : String) :
    readField .utf8 (writeField name value) = .ok (name, value) := by
  have hname : ∀ c ∈ Percent.escape name.toList, (c != '=') = true :=
    fun c hc => bne_iff_ne.mpr (ne_of_mem_escape hc).2
  have hvalue := readText_escape value
  rw [readField, writeField, List.takeWhile_append_of_pos hname,
    List.dropWhile_append_of_pos hname, List.takeWhile_cons_of_neg (by decide),
    List.dropWhile_cons_of_neg (by decide), List.append_nil, readText_escape, List.drop_one,
    List.tail_cons, hvalue]
  rfl

theorem not_mem_writeField (name value : String) : '&' ∉ writeField name value := by
  intro h
  rcases List.mem_append.mp h with h | h
  · exact (ne_of_mem_escape h).1 rfl
  · rcases List.mem_cons.mp h with h | h
    · exact absurd h (by decide)
    · exact (ne_of_mem_escape h).1 rfl

/-- Between texts without a mark there is one mark fewer than there are texts. -/
theorem count_intercalate {mark : Char} {texts : List (List Char)}
    (h : ∀ text ∈ texts, mark ∉ text) (hne : texts ≠ []) :
    ([mark].intercalate texts).count mark + 1 = texts.length := by
  induction texts with
  | nil => exact absurd rfl hne
  | cons text rest ih =>
    have htext : text.count mark = 0 := List.count_eq_zero.mpr (h text List.mem_cons_self)
    cases rest with
    | nil => simp [List.intercalate, htext]
    | cons next rest =>
      have hrest := ih (fun other ho => h other (List.mem_cons_of_mem text ho)) (by simp)
      simp only [List.intercalate, List.intersperse_cons_cons, List.flatten_cons, List.count_append,
        List.count_singleton_self, htext, List.length_cons] at hrest ⊢
      omega

/-- The bytes of a form are read as its text. -/
theorem read_encode (form : List Char) :
    read .utf8 (Utf8.encode form) = readFields .utf8 form := by
  have htext := Charset.read_utf8_encode .strict form
  rw [read, htext]
  split
  · next hempty =>
    rw [List.isEmpty_iff.mp hempty] at htext
    obtain rfl : [] = form := Except.ok.inj ((Charset.read_utf8_encode .strict []).symm.trans htext)
    rfl
  · rfl

/-- The names and values of a form, one a field. -/
def pairs (values : List (String × List String)) : List (String × String) :=
  values.flatMap fun entry => entry.2.map fun value => (entry.1, value)

theorem write_eq (values : List (String × List String)) :
    write values = ['&'].intercalate ((pairs values).map fun pair => writeField pair.1 pair.2) := by
  rw [write, pairs, List.map_flatMap]
  simp only [List.map_map]
  rfl

/-- Fields that stand one behind another make a text, as each of them holds its `=`. -/
theorem intercalate_ne_nil {pairs : List (String × String)} (h : pairs ≠ []) :
    ['&'].intercalate (pairs.map fun pair => writeField pair.1 pair.2) ≠ [] := by
  cases pairs with
  | nil => exact absurd rfl h
  | cons first rest =>
    cases rest with
    | nil => simp [List.intercalate, writeField]
    | cons next rest => simp [List.intercalate, List.intersperse_cons_cons, writeField]

theorem write_ne_nil {values : List (String × List String)} (h : pairs values ≠ []) :
    write values ≠ [] := by
  rw [write_eq]
  exact intercalate_ne_nil h

/-- Fields that stand one behind another are told apart, and each is read. -/
theorem readFields_intercalate {pairs : List (String × String)} (hsome : pairs ≠ [])
    (hfew : pairs.length ≤ maxFields) :
    readFields .utf8 (['&'].intercalate (pairs.map fun pair => writeField pair.1 pair.2)) =
      .ok (group pairs) := by
  have hform := Bool.eq_false_iff.mpr fun hempty =>
    intercalate_ne_nil hsome (List.isEmpty_iff.mp hempty)
  generalize hwritten : pairs.map (fun pair => writeField pair.1 pair.2) = fields at hform ⊢
  have hfields : ∀ field ∈ fields, '&' ∉ field ∧ (!field.isEmpty) = true := by
    intro field hfield
    obtain ⟨pair, -, rfl⟩ := List.mem_map.mp (hwritten ▸ hfield)
    exact ⟨not_mem_writeField pair.1 pair.2, by simp [writeField]⟩
  have hmark : ∀ field ∈ fields, '&' ∉ field := fun field hfield => (hfields field hfield).1
  have hne : fields ≠ [] := by simpa [← hwritten] using hsome
  have hread : fields.mapM (readField .utf8) = .ok pairs := by
    rw [← hwritten, Fallible.mapM_eq_ok_iff, List.forall₂_map_left_iff]
    exact List.forall₂_same.mpr fun pair _ => readField_writeField pair.1 pair.2
  have hlength : fields.length = pairs.length := by rw [← hwritten, List.length_map]
  unfold readFields
  rw [hform, count_intercalate hmark hne, hlength, List.splitOn_intercalate _ hmark hne,
    List.filter_eq_self.mpr fun field hfield => (hfields field hfield).2]
  simp only [Bool.false_eq_true, if_false, if_neg (Nat.not_lt.mpr hfew), hread]
  rfl

/-- **A form that was written is read as what it was written of**, if it has not too many fields. -/
theorem read_write {values : List (String × List String)}
    (hfew : (pairs values).length ≤ maxFields) :
    read .utf8 (Utf8.encode (write values)) = .ok (group (pairs values)) := by
  by_cases hsome : pairs values = []
  · rw [write_eq, hsome]
    rfl
  rw [read_encode, write_eq, readFields_intercalate hsome hfew]

end SchemaVisibility.Endpoint.Form
