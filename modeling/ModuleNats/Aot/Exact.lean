import ModuleNats.Aot.Reader

set_option autoImplicit false

/-! # The note reader is exact

Of an ELF image whose note segments are sequences of notes, `read_module_info()` returns the
descriptor of the one metadata note, wherever it is among the notes of other owners. -/

namespace ModuleNats.Aot

open Packed

/-! ## One note -/

section OneNote

variable {n : Note} {segment namePad rest : Bytes} {position k : ℕ}

theorem header_fields (h : segment.drop position = n.header ++ rest) :
    field segment position 4 = n.owner.length ∧ field segment (position + 4) 4 = n.desc.length ∧
      field segment (position + 8) 4 = n.type.toNat := by
  rw [Note.header, List.append_assoc, List.append_assoc] at h
  have hdesc := drop_of_drop h
  have htype := drop_of_drop hdesc
  simp only [length_encode] at hdesc htype
  exact ⟨field_of_drop n.owner_lt h, field_of_drop n.desc_lt hdesc,
    field_of_drop n.type.toNat_lt htype⟩

theorem moduleInfo_iff (n : Note) :
    (n.type.toNat = noteType ∧ n.owner = noteName) ↔ n.IsModuleInfo := by
  have htype : n.type.toNat = noteType ↔ n.type = 0x494D4151 := UInt32.toNat_inj (b := 0x494D4151)
  rw [htype]
  rfl

variable (h : segment.drop position = n.header ++ (n.owner ++ (namePad ++ (n.desc ++ rest))))
  (hpos : position % 2 ^ k = 0) (hname : namePad.length = padding (2 ^ k) (12 + n.owner.length))

include h in
/-- A note that is there lies inside the segment. -/
theorem note_length : segment.length =
    position + 12 + n.owner.length + namePad.length + n.desc.length + rest.length := by
  have hlength := congrArg List.length h
  simp only [List.length_drop, List.length_append, Note.length_header] at hlength
  omega

include h hpos hname in
theorem note_descStart :
    descStart segment (2 ^ k) position = position + 12 + n.owner.length + namePad.length := by
  rw [descStart, align_eq, (header_fields h).1, Nat.add_assoc position, padding_add hpos, hname]

include h hpos hname in
theorem note_descEnd : descEnd segment (2 ^ k) position =
    position + 12 + n.owner.length + namePad.length + n.desc.length := by
  rw [descEnd, note_descStart h hpos hname, (header_fields h).2.1]

include h hpos hname in
/-- The descriptor is found if and only if it is the one of a metadata note. -/
theorem note_found : noteFound segment (2 ^ k) position = records [n] := by
  have howner := drop_of_drop h
  rw [Note.length_header] at howner
  have hdesc := drop_of_drop (drop_of_drop howner)
  rw [noteFound, note_descEnd h hpos hname, note_descStart h hpos hname, (header_fields h).1,
    (header_fields h).2.2, slice_of_drop howner, slice_of_drop hdesc, records_cons, records_nil,
    List.append_nil]
  exact if_congr (moduleInfo_iff n) rfl rfl

include hpos hname in
theorem note_descStart_mod :
    (position + 12 + n.owner.length + namePad.length) % 2 ^ k = 0 := by
  rw [hname, Nat.add_assoc position]
  exact add_padding_mod (Nat.two_pow_pos k) hpos (12 + n.owner.length)

include h hpos hname in
/-- A pass over a note goes on after the padding of its descriptor, or at the end of the segment. -/
theorem noteLoop_note {fuel : ℕ} (hfuel : 0 < fuel) (found : List Bytes) :
    noteLoop segment (2 ^ k) fuel position found =
      noteLoop segment (2 ^ k) (fuel - 1)
        (min (position + 12 + n.owner.length + namePad.length + n.desc.length +
          padding (2 ^ k) n.desc.length) segment.length)
        (found ++ records [n]) := by
  have hlength := note_length h
  have hend := note_descEnd h hpos hname
  rw [noteLoop_next found hfuel (by omega) (by omega), note_found h hpos hname, align_eq, hend,
    padding_add (note_descStart_mod hpos hname)]

end OneNote

/-! ## A sequence of notes -/

/-- From the start of a sequence of notes that ends the segment, the loop adds its records: the
    sequence is followed note by note, with the position at a multiple of the alignment. -/
theorem noteLoop_notes {k : ℕ} {notes : List Note} {bytes : Bytes} (h : Notes (2 ^ k) notes bytes)
    {segment : Bytes} {position fuel : ℕ} (hdrop : segment.drop position = bytes)
    (hle : position ≤ segment.length) (hpos : position % 2 ^ k = 0)
    (hfuel : segment.length - position < fuel) (found : List Bytes) :
    noteLoop segment (2 ^ k) fuel position found = pure (found ++ records notes) := by
  induction h generalizing position fuel found with
  | nil =>
      have hlength := length_of_drop hle hdrop
      rw [List.length_nil, Nat.add_zero] at hlength
      rw [noteLoop_done found (by omega) (by omega), records_nil, List.append_nil]
  | last hname hpad =>
      have hlength := note_length hdrop
      -- the padding that is there takes the position to the end of the segment
      rw [noteLoop_note hdrop hpos hname (by omega), Nat.min_eq_right (by omega),
        noteLoop_done _ (by omega) (by omega)]
  | @cons n namePad pad rest notes hname hpad hrest ih =>
      have hlength := note_length hdrop
      rw [List.length_append] at hlength
      have hafter := drop_of_drop (drop_of_drop (drop_of_drop (drop_of_drop (drop_of_drop hdrop))))
      rw [Note.length_header, hpad] at hafter
      have hnext : (position + 12 + n.owner.length + namePad.length + n.desc.length +
          padding (2 ^ k) n.desc.length) % 2 ^ k = 0 :=
        add_padding_mod (Nat.two_pow_pos k) (note_descStart_mod hpos hname) n.desc.length
      rw [noteLoop_note hdrop hpos hname (by omega), Nat.min_eq_left (by omega),
        ih hafter (by omega) hnext (by omega), List.append_assoc, ← records_append]
      rfl

/-! ## An image -/

section Image

variable {fuel : ℕ} {path : String} {data : Bytes} {wide : Bool} {notes : ℕ → List Note}

/-- The notes of a segment that is aligned to 8 or 4 bytes. -/
theorem noteLoop_segment {align : ℕ} {notes : List Note} {segment : Bytes}
    (halign : align = 4 ∨ align = 8) (h : Notes align notes segment)
    (hfuel : segment.length < fuel) (found : List Bytes) :
    noteLoop segment (if align = 8 then 8 else 4) fuel 0 found = pure (found ++ records notes) := by
  rcases halign with rfl | rfl
  · exact noteLoop_notes (k := 2) h List.drop_zero (Nat.zero_le _) rfl hfuel found
  · exact noteLoop_notes (k := 3) h List.drop_zero (Nat.zero_le _) rfl hfuel found

theorem phdrPass_notes (path : String) (h : (layout wide).HasNotes data notes) {k : ℕ}
    (hk : k < (layout wide).phdrCount data)
    (hinside : (layout wide).phdr data k + (layout wide).phdrSize ≤ data.length)
    (hfuel : data.length < fuel) (found : List Bytes) :
    phdrPass fuel path data wide ((layout wide).phdr data k) found =
      pure (found ++ records ((layout wide).notesOf data notes k)) := by
  rw [phdrPass_eq found hinside, Layout.notesOf]
  by_cases htype : (layout wide).segmentType data k = 4
  · have hlength : ((layout wide).segment data k).length ≤ data.length := length_slice_le _ _ _
    rw [if_pos htype]
    refine (if_neg (not_not.2 htype)).trans ?_
    refine (if_neg (Nat.not_lt.2 (h.inside k hk htype))).trans ?_
    exact noteLoop_segment (h.align k hk htype) (h.notes k hk htype) (by omega) found
  · rw [if_neg htype, records_nil, List.append_nil]
    exact if_pos htype

theorem phdrLoop_notes (h : (layout wide).HasNotes data notes) (hfuel : data.length < fuel)
    (indices : List ℕ) (hindices : ∀ k ∈ indices, k < (layout wide).phdrCount data ∧
      (layout wide).phdr data k + (layout wide).phdrSize ≤ data.length) (found : List Bytes) :
    phdrLoop fuel path data wide (field data (layout wide).phoff (layout wide).word)
        (field data (layout wide).phentsize 2) indices found =
      pure (found ++ records (indices.flatMap ((layout wide).notesOf data notes))) := by
  induction indices generalizing found with
  | nil => rw [phdrLoop, List.flatMap_nil, records_nil, List.append_nil]
  | cons k rest ih =>
      obtain ⟨hk, hinside⟩ := hindices k (List.mem_cons_self ..)
      have hpass := phdrPass_notes path h hk hinside hfuel found
      rw [Layout.phdr] at hpass
      rw [phdrLoop, hpass, pure_bind, ih fun j hj => hindices j (List.mem_cons_of_mem k hj),
        List.flatMap_cons, records_append, List.append_assoc]

/-- What is done with the records of all segments. -/
def onlyRecord (path : String) : List Bytes → Py Bytes
  | [] => pure []
  | [record] => pure record
  | _ => Py.valueError (path ++ ": more than one AOT module metadata note")

theorem readPhdrs_notes (h : (layout wide).HasNotes data notes)
    (hsome : (layout wide).ePhnum data ≠ 0) (hfuel : data.length < fuel) :
    readPhdrs fuel path data wide (field data (layout wide).phoff (layout wide).word)
        (field data (layout wide).phentsize 2) ((layout wide).phdrCount data) =
      onlyRecord path (records ((layout wide).allNotes data notes)) := by
  obtain ⟨hsize, hlast⟩ := h.phdrs hsome
  rw [Layout.phdr] at hlast
  have hindices : ∀ k ∈ List.range ((layout wide).phdrCount data),
      k < (layout wide).phdrCount data ∧
        (layout wide).phdr data k + (layout wide).phdrSize ≤ data.length := by
    intro k hk
    have hk := List.mem_range.1 hk
    exact ⟨hk, phdr_inside hk hsize hlast⟩
  unfold readPhdrs
  rw [size_phdrFormat, if_neg (by omega), phdrLoop_notes h hfuel _ hindices, pure_bind,
    List.nil_append, ← Layout.allNotes]
  rcases records ((layout wide).allNotes data notes) with _ | ⟨record, _ | ⟨_, _⟩⟩
  · rfl
  · rfl
  · rfl

theorem readElf_notes (h : (layout wide).HasNotes data notes) (hfuel : data.length < fuel) :
    readElf fuel path data wide =
      onlyRecord path (records ((layout wide).allNotes data notes)) := by
  rw [readElf_eq h.ehdr]
  by_cases hnone : (layout wide).ePhnum data = 0
  · have hcount : (layout wide).phdrCount data = 0 := by
      rw [Layout.phdrCount, if_neg (by omega), hnone]
    rw [if_pos hnone, Layout.allNotes, hcount]
    rfl
  · have hcount := readCount_eq path data wide
    rw [if_neg fun hout => Nat.not_le.2 hout.2 (h.extended hout.1)] at hcount
    rw [if_neg hnone, hcount, pure_bind, readPhdrs_notes h hnone hfuel]

theorem readModuleInfo_notes (wide : Bool) (h : (layout wide).HasNotes data notes)
    (hfuel : data.length < fuel) :
    readModuleInfo fuel path data =
      onlyRecord path (records ((layout wide).allNotes data notes)) := by
  have hehdr : 52 ≤ (layout wide).ehdrSize := by
    cases wide <;> decide
  have hlength : 16 ≤ data.length := by
    have := h.ehdr
    omega
  have hencoding := h.encoding
  have hclass := h.elfClass
  rw [List.getElem?_eq_getElem (by omega), Option.some_inj] at hencoding hclass
  rw [readModuleInfo_eq hlength h.magic, hencoding, hclass]
  cases wide
  · exact readElf_notes h hfuel
  · exact readElf_notes h hfuel

/-- The records are the descriptors of the metadata notes. -/
theorem onlyRecord_records (path : String) (notes : List Note) :
    onlyRecord path (records notes) =
      match notes.filter (·.IsModuleInfo) with
      | [] => pure []
      | [note] => pure note.desc
      | _ => Py.valueError (path ++ ": more than one AOT module metadata note") := by
  rw [records]
  generalize notes.filter (·.IsModuleInfo) = found
  rcases found with _ | ⟨note, _ | ⟨_, _⟩⟩
  · rfl
  · rfl
  · rfl

end Image

/-- On every byte string, `read_module_info()` returns bytes or raises a `ValueError`. On an ELF
    image with notes it returns the descriptor of the only metadata note, nothing if there is none,
    and raises a `ValueError` if there is more than one. -/
theorem readModuleInfo_exact (path : String) (data : Bytes) :
    Settles data.length (fun fuel => readModuleInfo fuel path data) ∧
      ∀ L : Layout, L = elf32 ∨ L = elf64 → ∀ notes, L.HasNotes data notes →
        ∀ fuel, data.length < fuel → readModuleInfo fuel path data =
          match (L.allNotes data notes).filter (·.IsModuleInfo) with
          | [] => pure []
          | [note] => pure note.desc
          | _ => Py.valueError (path ++ ": more than one AOT module metadata note") := by
  refine ⟨readModuleInfo_settles path data, ?_⟩
  rintro L (rfl | rfl)
  · intro notes h fuel hfuel
    rw [readModuleInfo_notes false h hfuel]
    exact onlyRecord_records path _
  · intro notes h fuel hfuel
    rw [readModuleInfo_notes true h hfuel]
    exact onlyRecord_records path _

/-- A note of another owner. -/
def otherNote : Note where
  owner := [71, 78, 85, 0]
  type := 3
  desc := [1, 2]
  owner_lt := by decide
  desc_lt := by decide

/-- A metadata note. -/
def metadataNote : Note where
  owner := [81, 111, 114, 101, 0]
  type := 0x494D4151
  desc := [7, 8, 9]
  owner_lt := by decide
  desc_lt := by decide

/-- The two notes, without padding after the last descriptor. -/
def twoNotes : Bytes :=
  otherNote.header ++ (otherNote.owner ++ ([] ++ (otherNote.desc ++ ([0, 0] ++
    (metadataNote.header ++ (metadataNote.owner ++ ([0, 0, 0] ++ (metadataNote.desc ++ []))))))))

/-- A 32-bit image with one segment, which has these notes. -/
def twoNotesImage : Bytes :=
  [0x7F, 0x45, 0x4C, 0x46, 1, 1, 1] ++ List.replicate 21 0 ++ encode 4 52 ++ List.replicate 10 0 ++
    encode 2 32 ++ encode 2 1 ++ List.replicate 6 0 ++
  (encode 4 4 ++ encode 4 84 ++ List.replicate 8 0 ++ encode 4 43 ++ List.replicate 8 0 ++
    encode 4 4) ++ twoNotes

theorem twoNotesImage_hasNotes :
    elf32.HasNotes twoNotesImage fun _ => [otherNote, metadataNote] where
  magic := by decide
  elfClass := by decide
  encoding := by decide
  ehdr := by decide +kernel
  extended := by decide +kernel
  phdrs := by decide +kernel
  inside := by decide +kernel
  align := by decide +kernel
  notes := by
    intro k hk _
    have hcount : elf32.phdrCount twoNotesImage = 1 := by decide +kernel
    have hzero : k = 0 := by omega
    have halign : elf32.segmentAlign twoNotesImage 0 = 4 := by decide +kernel
    have hsegment : elf32.segment twoNotesImage 0 = twoNotes := by decide +kernel
    rw [hzero, halign, hsegment]
    exact Notes.cons rfl rfl (Notes.last rfl (Nat.zero_le _))

theorem readModuleInfo_exact_twoNotes :
    elf32.HasNotes twoNotesImage (fun _ => [otherNote, metadataNote]) ∧
      readModuleInfo 128 "a.qmod" twoNotesImage = pure [7, 8, 9] :=
  ⟨twoNotesImage_hasNotes, (readModuleInfo_exact "a.qmod" twoNotesImage).2 elf32 (Or.inl rfl) _
    twoNotesImage_hasNotes 128 (by decide +kernel)⟩

end ModuleNats.Aot
