import ModuleNats.Lib.Packed

set_option autoImplicit false

/-! # ELF images and their notes

What the format says: where the fields of the headers are, how many program headers there are, and
how the notes of a segment follow each other. Nothing here is taken from the script that reads the
images; `HasNotes` is what its result is compared with. -/

namespace ModuleNats.Aot

open Packed

abbrev Bytes := List UInt8

/-! ## Notes -/

/-- An ELF note. -/
structure Note where
  owner : Bytes
  type : UInt32
  desc : Bytes
  owner_lt : owner.length < 4294967296
  desc_lt : desc.length < 4294967296
deriving DecidableEq

namespace Note

/-- The sizes of the owner and of the descriptor, and the type. -/
def header (n : Note) : Bytes :=
  encode 4 n.owner.length ++ (encode 4 n.desc.length ++ encode 4 n.type.toNat)

/-- The note of Qore with the metadata of an AOT module. -/
def IsModuleInfo (n : Note) : Prop := n.type = 0x494D4151 ∧ n.owner = [81, 111, 114, 101, 0]

instance (n : Note) : Decidable n.IsModuleInfo := inferInstanceAs (Decidable (_ ∧ _))

theorem length_header (n : Note) : n.header.length = 12 := by simp [header]

end Note

/-- A sequence of notes: the descriptors and the notes start at multiples of the alignment. The
    bytes of the padding can be any. -/
inductive Notes (alignment : ℕ) : List Note → Bytes → Prop where
  | nil : Notes alignment [] []
  /-- the padding after the last descriptor can be left out, or be cut -/
  | last {n : Note} {namePad pad : Bytes}
      (hname : namePad.length = padding alignment (12 + n.owner.length))
      (hpad : pad.length ≤ padding alignment n.desc.length) :
      Notes alignment [n] (n.header ++ (n.owner ++ (namePad ++ (n.desc ++ pad))))
  | cons {n : Note} {namePad pad rest : Bytes} {notes : List Note}
      (hname : namePad.length = padding alignment (12 + n.owner.length))
      (hpad : pad.length = padding alignment n.desc.length)
      (hrest : Notes alignment notes rest) :
      Notes alignment (n :: notes) (n.header ++ (n.owner ++ (namePad ++ (n.desc ++ (pad ++ rest)))))

/-! ## Headers -/

/-- The offsets of the fields, and the sizes of the headers, of a class of ELF images. -/
structure Layout where
  /-- `EI_CLASS` -/
  elfClass : UInt8
  /-- the size of an address, an offset or a size of a segment -/
  word : ℕ
  ehdrSize : ℕ
  phoff : ℕ
  shoff : ℕ
  phentsize : ℕ
  phnum : ℕ
  phdrSize : ℕ
  pOffset : ℕ
  pFilesz : ℕ
  pAlign : ℕ
  shInfo : ℕ

/-- `Elf32_Ehdr`, `Elf32_Phdr` and `Elf32_Shdr` -/
def elf32 : Layout where
  elfClass := 1
  word := 4
  ehdrSize := 52
  phoff := 28
  shoff := 32
  phentsize := 42
  phnum := 44
  phdrSize := 32
  pOffset := 4
  pFilesz := 16
  pAlign := 28
  shInfo := 28

/-- `Elf64_Ehdr`, `Elf64_Phdr` and `Elf64_Shdr` -/
def elf64 : Layout where
  elfClass := 2
  word := 8
  ehdrSize := 64
  phoff := 32
  shoff := 40
  phentsize := 54
  phnum := 56
  phdrSize := 56
  pOffset := 8
  pFilesz := 32
  pAlign := 48
  shInfo := 44

namespace Layout

variable (L : Layout) (data : Bytes)

/-- `e_phnum` -/
def ePhnum : ℕ := field data L.phnum 2

/-- The offset of `sh_info` in the first section header. -/
def infoOffset : ℕ := field data L.shoff L.word + L.shInfo

/-- The number of program headers; from `PN_XNUM` on it is in the first section header. -/
def phdrCount : ℕ := if L.ePhnum data = 0xFFFF then field data (L.infoOffset data) 4
  else L.ePhnum data

/-- The offset of a program header. -/
def phdr (k : ℕ) : ℕ := field data L.phoff L.word + k * field data L.phentsize 2

def segmentType (k : ℕ) : ℕ := field data (L.phdr data k) 4

def segmentOffset (k : ℕ) : ℕ := field data (L.phdr data k + L.pOffset) L.word

def segmentSize (k : ℕ) : ℕ := field data (L.phdr data k + L.pFilesz) L.word

def segmentAlign (k : ℕ) : ℕ := field data (L.phdr data k + L.pAlign) L.word

/-- The bytes of a segment. -/
def segment (k : ℕ) : Bytes :=
  slice data (L.segmentOffset data k) (L.segmentOffset data k + L.segmentSize data k)

/-- A little-endian ELF image whose headers lie inside the file. -/
structure IsImage : Prop where
  magic : data.take 4 = [0x7F, 0x45, 0x4C, 0x46]
  elfClass : data[4]? = some L.elfClass
  encoding : data[5]? = some 1
  ehdr : L.ehdrSize ≤ data.length
  extended : L.ePhnum data = 0xFFFF → L.infoOffset data + 4 ≤ data.length
  phdrs : L.ePhnum data ≠ 0 →
    L.phdrSize ≤ field data L.phentsize 2 ∧ L.phdr data (L.phdrCount data) ≤ data.length

/-- An ELF image whose `PT_NOTE` segments lie inside the file and are sequences of these notes. -/
structure HasNotes (notes : ℕ → List Note) : Prop extends L.IsImage data where
  inside : ∀ k < L.phdrCount data, L.segmentType data k = 4 →
    L.segmentOffset data k + L.segmentSize data k ≤ data.length
  align : ∀ k < L.phdrCount data, L.segmentType data k = 4 →
    L.segmentAlign data k = 4 ∨ L.segmentAlign data k = 8
  notes : ∀ k < L.phdrCount data, L.segmentType data k = 4 →
    Notes (L.segmentAlign data k) (notes k) (L.segment data k)

/-- The notes of a program header. -/
def notesOf (notes : ℕ → List Note) (k : ℕ) : List Note :=
  if L.segmentType data k = 4 then notes k else []

/-- The notes of all segments, in the order of the program headers. -/
def allNotes (notes : ℕ → List Note) : List Note :=
  (List.range (L.phdrCount data)).flatMap (L.notesOf data notes)

end Layout

/-- The records of the metadata notes among some notes. -/
def records (notes : List Note) : List Bytes := (notes.filter (·.IsModuleInfo)).map Note.desc

@[simp] theorem records_nil : records [] = [] := rfl

theorem records_cons (n : Note) (notes : List Note) :
    records (n :: notes) = (if n.IsModuleInfo then [n.desc] else []) ++ records notes := by
  by_cases hn : n.IsModuleInfo
  · simp [records, hn]
  · simp [records, hn]

theorem records_append (notes notes' : List Note) :
    records (notes ++ notes') = records notes ++ records notes' := by
  simp [records]

end ModuleNats.Aot
