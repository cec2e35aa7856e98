import Mathlib.Data.Int.Notation
import ModuleNats.Lib.Packed

set_option autoImplicit false

/-! # `read_module_info()`

The script that packaging runs reads the AOT metadata record of a module out of its ELF image with
`struct`. Reading outside the bytes, or an item that a tuple does not have, raises an exception here
as it does in Python; so does a `ValueError` of the script. A loop that is given too little fuel has
no result. -/

namespace ModuleNats.Aot

open Packed

/-! ## Python -/

/-- The exceptions of the script, with what is read of them. -/
inductive PyException where
  | valueError (message : String)
  | structError (message : String)
  | indexError (message : String)
  | osError (message : String)
  /-- of `subprocess.run()` -/
  | calledProcessError (status : ℤ)
  | other (message : String)
deriving DecidableEq, Repr

/-- A computation that may raise an exception; `none` if it has run out of fuel. -/
abbrev Py := ExceptT PyException Option

namespace Py

variable {α : Type}

def valueError (message : String) : Py α := throw (.valueError message)

def outOfFuel : Py α := ExceptT.mk none

/-- `xs[i]` -/
def getItem (xs : List α) (i : ℕ) : Py α :=
  match xs[i]? with
  | some x => pure x
  | none => throw (.indexError "index out of range")

theorem getItem_of_lt {xs : List α} {i : ℕ} (h : i < xs.length) : getItem xs i = pure xs[i] := by
  rw [getItem, List.getElem?_eq_getElem h]

/-- `struct.unpack_from()` -/
def unpackFrom (format : List Item) (data : List UInt8) (offset : ℕ) : Py (List ℕ) :=
  match Packed.unpackFrom format data offset with
  | some fields => pure fields
  | none => throw (.structError ("unpack_from requires a buffer of at least " ++
      toString (offset + size format) ++ " bytes for unpacking " ++ toString (size format) ++
      " bytes at offset " ++ toString offset ++ " (actual buffer size is " ++
      toString data.length ++ ")"))

theorem unpackFrom_of_le {format : List Item} {data : List UInt8} {offset : ℕ}
    (h : offset + size format ≤ data.length) :
    unpackFrom format data offset = pure (unpack data offset format) := by
  rw [unpackFrom, Packed.unpackFrom_of_le h]

/-- An exception ends a sequence. -/
theorem valueError_bind {β : Type} (message : String) (f : α → Py β) :
    (valueError message >>= f) = valueError message := rfl

end Py

/-! ## The script -/

/-- `NOTE_NAME` -/
def noteName : List UInt8 := [81, 111, 114, 101, 0]

/-- `NOTE_TYPE` -/
def noteType : ℕ := 0x494D4151

/-- `"<16xHHIQQQIHHHHHH" if elf64 else "<16xHHIIIIIHHHHHH"` -/
def headerFormat (elf64 : Bool) : List Item :=
  if elf64 then [.skip 16, .uint 2, .uint 2, .uint 4, .uint 8, .uint 8, .uint 8, .uint 4, .uint 2,
    .uint 2, .uint 2, .uint 2, .uint 2, .uint 2]
  else [.skip 16, .uint 2, .uint 2, .uint 4, .uint 4, .uint 4, .uint 4, .uint 4, .uint 2,
    .uint 2, .uint 2, .uint 2, .uint 2, .uint 2]

/-- `"<IIQQQQQQ" if elf64 else "<IIIIIIII"` -/
def phdrFormat (elf64 : Bool) : List Item :=
  if elf64 then [.uint 4, .uint 4, .uint 8, .uint 8, .uint 8, .uint 8, .uint 8, .uint 8]
  else [.uint 4, .uint 4, .uint 4, .uint 4, .uint 4, .uint 4, .uint 4, .uint 4]

/-- `"<III"` -/
def noteFormat : List Item := [.uint 4, .uint 4, .uint 4]

/-- One pass of the loop over the notes of a segment; `none` is the `break`. -/
def notePass (segment : List UInt8) (alignment position : ℕ) (records : List (List UInt8)) :
    Py (Option (ℕ × List (List UInt8))) := do
  let fields ← Py.unpackFrom noteFormat segment position
  let nameSize ← Py.getItem fields 0
  let descSize ← Py.getItem fields 1
  let type ← Py.getItem fields 2
  let name := position + 12
  let desc := align (name + nameSize) alignment
  if desc + descSize > segment.length then
    -- the notes of other owners are not checked
    return none
  else
    let found := if type = noteType ∧ slice segment name (name + nameSize) = noteName then
        [slice segment desc (desc + descSize)]
      else []
    return some (min (align (desc + descSize) alignment) segment.length, records ++ found)

/-- The loop over the notes of a segment. -/
def noteLoop (segment : List UInt8) (alignment : ℕ) :
    ℕ → ℕ → List (List UInt8) → Py (List (List UInt8))
  | 0, _, _ => Py.outOfFuel
  | fuel + 1, position, records =>
      if segment.length - position ≥ 12 then do
        match ← notePass segment alignment position records with
        | none => return records
        | some (position, records) => noteLoop segment alignment fuel position records
      else return records

section Reader

variable (fuel : ℕ) (path : String) (data : List UInt8) (elf64 : Bool)

/-- One pass of the loop over the program headers, for the one at an offset. -/
def phdrPass (phdr : ℕ) (records : List (List UInt8)) : Py (List (List UInt8)) := do
  let entry ← Py.unpackFrom (phdrFormat elf64) data phdr
  let type ← Py.getItem entry 0
  -- `PT_NOTE`
  if type ≠ 4 then return records
  else
    let offset ← Py.getItem entry (if elf64 then 2 else 1)
    let size ← Py.getItem entry (if elf64 then 5 else 4)
    let alignment ← Py.getItem entry 7
    if offset + size > data.length then
      Py.valueError (path ++ ": truncated ELF note segment")
    else
      noteLoop (slice data offset (offset + size)) (if alignment = 8 then 8 else 4) fuel 0 records

/-- The loop over the program headers. -/
def phdrLoop (phoff phentsize : ℕ) : List ℕ → List (List UInt8) → Py (List (List UInt8))
  | [], records => return records
  | index :: rest, records => do
      let records ← phdrPass fuel path data elf64 (phoff + index * phentsize) records
      phdrLoop phoff phentsize rest records

/-- The number of program headers. -/
def readCount (shoff phnum : ℕ) : Py ℕ := do
  -- `PN_XNUM`
  if phnum = 0xFFFF then
    let infoOffset := shoff + (if elf64 then 44 else 28)
    if infoOffset + 4 > data.length then
      Py.valueError (path ++ ": truncated ELF section header")
    else
      let fields ← Py.unpackFrom [.uint 4] data infoOffset
      Py.getItem fields 0
  else return phnum

/-- The part after the number of program headers is known. -/
def readPhdrs (phoff phentsize phnum : ℕ) : Py (List UInt8) := do
  if phentsize < size (phdrFormat elf64) ∨ phoff + phnum * phentsize > data.length then
    Py.valueError (path ++ ": truncated or invalid ELF program headers")
  else
    match ← phdrLoop fuel path data elf64 phoff phentsize (List.range phnum) [] with
    | [] => return []
    | [record] => return record
    | _ => Py.valueError (path ++ ": more than one AOT module metadata note")

/-- The part after the class of the image is known. -/
def readElf : Py (List UInt8) := do
  if data.length < size (headerFormat elf64) then
    Py.valueError (path ++ ": truncated ELF header")
  else
    let fields ← Py.unpackFrom (headerFormat elf64) data 0
    let phoff ← Py.getItem fields 4
    let shoff ← Py.getItem fields 5
    let phentsize ← Py.getItem fields 8
    let phnum ← Py.getItem fields 9
    if phnum = 0 then return []
    else
      let phnum ← readCount path data elf64 shoff phnum
      readPhdrs fuel path data elf64 phoff phentsize phnum

/-- `read_module_info()`, for the bytes of the file. -/
def readModuleInfo : Py (List UInt8) := do
  if data.length < 16 ∨ slice data 0 4 ≠ [0x7F, 0x45, 0x4C, 0x46] then return []
  else
    let encoding ← Py.getItem data 5
    let elfClass ← Py.getItem data 4
    if encoding ≠ 1 ∨ (elfClass ≠ 1 ∧ elfClass ≠ 2) then return []
    else readElf fuel path data (elfClass == 2)

end Reader

end ModuleNats.Aot
