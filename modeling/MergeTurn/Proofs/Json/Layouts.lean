import MergeTurn.Json.Decode
import MergeTurn.Proofs.Json.Grammar

set_option autoImplicit false

/-!
# Both layouts are read back

A document that has a text of its own is written by the grammar, without blanks as well as with one
element or member a line. So both texts are read back as the document.

## Main results

* `MergeTurn.Json.writes_compact`, `MergeTurn.Json.writes_pretty` — the layouts keep to the grammar.
* `MergeTurn.Json.ofBytes_compact`, `MergeTurn.Json.ofBytes_pretty` — both are read back.
* `MergeTurn.Json.decode_compact`, `MergeTurn.Json.decode_pretty` — so are values from them.
-/

namespace MergeTurn.Json

/-- Nothing is a text of blanks. -/
lemma blank_nil : Blank [] := by simp [Blank]

/-- One blank is a text of blanks. -/
lemma blank_space : Blank [0x20] := by simp [Blank, isSpace]

/-- A line break and the blanks behind it are blanks. -/
lemma blank_newline (depth : Nat) : Blank (charBytes (newline depth)) := by
  have hbytes : charBytes (newline depth) = 0x0a :: List.replicate (2 * depth) 0x20 := by
    rw [newline, charBytes_of_lt]
    · simp
    · intro c hc
      rcases List.mem_cons.1 hc with rfl | hc
      · decide
      · rw [List.eq_of_mem_replicate hc]
        decide
  rw [hbytes]
  intro b hb
  rcases List.mem_cons.1 hb with rfl | hb
  · decide
  · rw [List.eq_of_mem_replicate hb]
    decide

/-- A text is printed by the grammar. -/
lemma writes_text (s : String) : Writes (charBytes (stringChars s)) (text s) := by
  have h := Writes.str (writesChars_stringBody s)
  rwa [Option.map_some, String.ofList_toList, ← charBytes_stringChars] at h

/-! ## Without blanks -/

mutual

/-- Written without blanks, a document keeps to the grammar. -/
theorem writes_compact {v : Json} (h : v.Plain = true) : Writes (charBytes v.compactChars) v := by
  match v with
  | .null => exact .null
  | .bool b => exact .bool b
  | .num (.natural n) => exact .num (writesNumber_toDigits n)
  | .str (some s) => exact writes_text s
  | .arr .nil => exact .noElements blank_nil
  | .arr (.cons v es) => exact .elements (writesElements_compact h (by simp))
  | .obj .nil => exact .noMembers blank_nil
  | .obj (.cons k v ms) => exact .members (writesMembers_compact h (by simp))

/-- Written without blanks, elements keep to the grammar. -/
theorem writesElements_compact {es : Elements} (h : es.Plain = true) (hne : es ≠ .nil) :
    WritesElements (charBytes es.compactChars) es := by
  match es with
  | .cons v .nil =>
    have hv := writes_compact (v := v) (by simp_all [Elements.Plain])
    simpa (disch := decide) [Elements.compactChars, utf8EncodeChar_of_lt] using
      WritesElements.last blank_nil hv blank_nil
  | .cons v .cut => simp [Elements.Plain] at h
  | .cons v (.cons w es) =>
    rw [Elements.Plain, Bool.and_eq_true] at h
    have hv := writes_compact h.1
    have hes := writesElements_compact h.2 (by simp)
    simpa (disch := decide) [Elements.compactChars, utf8EncodeChar_of_lt] using
      WritesElements.cons blank_nil hv blank_nil hes

/-- Written without blanks, members keep to the grammar. -/
theorem writesMembers_compact {ms : Members} (h : ms.Plain = true) (hne : ms ≠ .nil) :
    WritesMembers (charBytes ms.compactChars) ms := by
  match ms with
  | .cons (some k) v .nil =>
    have hv := writes_compact (v := v) (by simp_all [Members.Plain])
    simpa (disch := decide) [Members.compactChars, keyChars, charBytes_stringChars,
      utf8EncodeChar_of_lt] using
      WritesMembers.last blank_nil (writesChars_stringBody k) blank_nil blank_nil hv blank_nil
  | .cons k v .cut => simp [Members.Plain] at h
  | .cons none v ms => simp [Members.Plain] at h
  | .cons (some k) v (.cons k' w ms) =>
    rw [Members.Plain, Bool.and_eq_true, Bool.and_eq_true] at h
    have hv := writes_compact h.1.2
    have hms := writesMembers_compact h.2 (by simp)
    simpa (disch := decide) [Members.compactChars, keyChars, charBytes_stringChars,
      utf8EncodeChar_of_lt] using
      WritesMembers.cons blank_nil (writesChars_stringBody k) blank_nil blank_nil hv blank_nil hms

end

/-! ## One element or member a line -/

mutual

/-- Written with one element or member a line, a document keeps to the grammar. -/
theorem writes_pretty (depth : Nat) {v : Json} (h : v.Plain = true) :
    Writes (charBytes (v.prettyChars depth)) v := by
  match v with
  | .null => exact .null
  | .bool b => exact .bool b
  | .num (.natural n) => exact .num (writesNumber_toDigits n)
  | .str (some s) => exact writes_text s
  | .arr .nil => exact .noElements blank_nil
  | .arr (.cons v es) => exact .elements (writesElements_pretty depth h (by simp))
  | .obj .nil => exact .noMembers blank_nil
  | .obj (.cons k v ms) => exact .members (writesMembers_pretty depth h (by simp))

/-- Written one a line, elements keep to the grammar. -/
theorem writesElements_pretty (depth : Nat) {es : Elements} (h : es.Plain = true)
    (hne : es ≠ .nil) : WritesElements (charBytes (es.prettyChars depth)) es := by
  match es with
  | .cons v .nil =>
    have hv := writes_pretty (depth + 1) (v := v) (by simp_all [Elements.Plain])
    simpa (disch := decide) [Elements.prettyChars, utf8EncodeChar_of_lt] using
      WritesElements.last (blank_newline (depth + 1)) hv (blank_newline depth)
  | .cons v .cut => simp [Elements.Plain] at h
  | .cons v (.cons w es) =>
    rw [Elements.Plain, Bool.and_eq_true] at h
    have hv := writes_pretty (depth + 1) h.1
    have hes := writesElements_pretty depth h.2 (by simp)
    simpa (disch := decide) [Elements.prettyChars, utf8EncodeChar_of_lt] using
      WritesElements.cons (blank_newline (depth + 1)) hv blank_nil hes

/-- Written one a line, members keep to the grammar. -/
theorem writesMembers_pretty (depth : Nat) {ms : Members} (h : ms.Plain = true)
    (hne : ms ≠ .nil) : WritesMembers (charBytes (ms.prettyChars depth)) ms := by
  match ms with
  | .cons (some k) v .nil =>
    have hv := writes_pretty (depth + 1) (v := v) (by simp_all [Members.Plain])
    simpa (disch := decide) [Members.prettyChars, keyChars, charBytes_stringChars,
      utf8EncodeChar_of_lt] using
      WritesMembers.last (blank_newline (depth + 1)) (writesChars_stringBody k) blank_nil blank_space
        hv (blank_newline depth)
  | .cons k v .cut => simp [Members.Plain] at h
  | .cons none v ms => simp [Members.Plain] at h
  | .cons (some k) v (.cons k' w ms) =>
    rw [Members.Plain, Bool.and_eq_true, Bool.and_eq_true] at h
    have hv := writes_pretty (depth + 1) h.1.2
    have hms := writesMembers_pretty depth h.2 (by simp)
    simpa (disch := decide) [Members.prettyChars, keyChars, charBytes_stringChars,
      utf8EncodeChar_of_lt] using
      WritesMembers.cons (blank_newline (depth + 1)) (writesChars_stringBody k) blank_nil blank_space
        hv blank_nil hms

end

/-! ## Reading back -/

/-- A text that is a written form of a document holds the document. -/
lemma isText_ofList {cs : List Char} {v : Json} (h : Writes (charBytes cs) v) :
    IsText (utf8 (String.ofList cs)) v :=
  ⟨[], charBytes cs, [], blank_nil, h, blank_nil, by rw [utf8_ofList]; simp⟩

/-- What is written without blanks is a text of the document. -/
lemma isText_compact {v : Json} (h : v.Plain = true) : IsText (utf8 v.compact) v :=
  isText_ofList (writes_compact h)

/-- What is written with one element or member a line is a text of the document. -/
lemma isText_pretty {v : Json} (h : v.Plain = true) : IsText (utf8 v.pretty) v :=
  isText_ofList (writes_pretty 0 h)

/-- What is written without blanks is read back. -/
theorem ofBytes_compact {v : Json} (h : v.Plain = true) : ofBytes (utf8 v.compact) = (v, true) :=
  ofBytes_of_writes (isText_compact h)

/-- What is written with one element or member a line is read back. -/
theorem ofBytes_pretty {v : Json} (h : v.Plain = true) : ofBytes (utf8 v.pretty) = (v, true) :=
  ofBytes_of_writes (isText_pretty h)

/-- From a text that holds a document and nothing else, a value is decoded as it is read from the
document. -/
lemma decode_of_ofBytes {α : Type} {read : Json → Except Fault α} {bs : List UInt8} {v : Json}
    (h : ofBytes bs = (v, true)) : decode read bs = read v := by
  rw [decode, h]
  dsimp only
  cases read v with
  | error e => rfl
  | ok a => rfl

/-- From a text of a document, a value is decoded as it is read from the document. -/
theorem decode_of_isText {α : Type} {read : Json → Except Fault α} {bs : List UInt8} {v : Json}
    (h : IsText bs v) : decode read bs = read v :=
  decode_of_ofBytes (ofBytes_of_writes h)

/-- From what is written without blanks, a value is decoded as it is read from the document. -/
theorem decode_compact {α : Type} {read : Json → Except Fault α} {v : Json}
    (h : v.Plain = true) : decode read (utf8 v.compact) = read v :=
  decode_of_isText (isText_compact h)

/-- From what is written with one element or member a line, a value is decoded as it is read from
the document. -/
theorem decode_pretty {α : Type} {read : Json → Except Fault α} {v : Json}
    (h : v.Plain = true) : decode read (utf8 v.pretty) = read v :=
  decode_of_isText (isText_pretty h)

end MergeTurn.Json
