import Unannotate.Text.Quoted

/-!
What can be wrong with an artifact, and how a message says it.
-/
set_option autoImplicit false

namespace Unannotate

/-- Why a text is not the descriptor of one type. -/
inductive DescriptorFault
  | endOfInput
  | missingSemicolon
  | unrecognized
  | leadingParenthesis
  | arrayOfParenthesis
  | tooManyDimensions
  deriving DecidableEq, Repr

namespace DescriptorFault

def message : DescriptorFault → String
  | endOfInput => "UnexpectedEndOfInput"
  | missingSemicolon => "InvalidFormat(\"Missing semicolon in class name descriptor.\")"
  | unrecognized => "InvalidFormat(\"Unrecognized type descriptor.\")"
  | leadingParenthesis => "InvalidFormat(\"Invalid descriptor\")"
  | arrayOfParenthesis => "InvalidFormat(\"Invalid descriptor.\")"
  | tooManyDimensions => "TooManyDimensions"

end DescriptorFault

/-- What the strict layout check of a class file refuses. -/
inductive LayoutFault
  | overflow (offset size : Nat)
  | outOfBounds (stop size : Nat)
  | notAllRead (size offset : Nat)
  | noConstant (index : Nat)
  /-- A name index that leads to a constant of another kind, shown in full. -/
  | notText (index : Nat) (constant : String)
  | elementTag (tag : Nat)
  | targetType (type : Nat)
  | frameType (type : Nat)
  | verificationTag (tag : Nat)
  | unmatchedAttribute (name : String)
  deriving DecidableEq, Repr

namespace LayoutFault

def message : LayoutFault → String
  | overflow offset size => s!"overflow : attempt to read from {offset} whereas len is {size}"
  | outOfBounds stop size => s!"Index out of bounds: {stop} of {size}"
  | notAllRead size offset => s!"Not all was read : data.len() is {size}, start_from is {offset}"
  | noConstant index => s!"element not found at index {index}"
  | notText _ constant => s!"element type is not Uint8 but {constant}"
  | elementTag tag => s!"Unsupported element tag: {tag}"
  | targetType type => s!"Invalid target_type: {type}"
  | frameType type => s!"Unsupported frame_type: {type}"
  | verificationTag tag => s!"tag {tag} is not valid"
  | unmatchedAttribute name => s!"unmatched attribute: {name}"

end LayoutFault

inductive Malformation
  | truncated (need offset size : Nat)
  | trailing (count : Nat) (part : String)
  | magic (value : Nat)
  | constantTag (tag index : Nat)
  | twoSlotOverrun (index count : Nat)
  | notText (index : Nat)
  | notClass (index : Nat)
  | textByte (byte : Nat)
  | textTruncated
  | tooMany (part : String) (count : Nat)
  | attributeTooLong
  | valuesTooDeep
  | valueTag (tag : Nat)
  | descriptor (text : String) (fault : DescriptorFault)
  | notClassType (text : String)
  | layout (fault : LayoutFault)
  | unreadableArchive
  | directoryRecordTruncated
  | directoryStartsPastEnd
  | directoryTooLarge
  /-- More than the fields of an archive can say. -/
  | archiveTooLarge
  deriving DecidableEq, Repr

namespace Malformation

def detail : Malformation → String
  | truncated need offset size => s!"truncated data: need {need} bytes at offset {offset} of {size}"
  | trailing count part => s!"{count} trailing bytes after {part}"
  | magic value => "invalid class file magic 0x" ++ Text.hexPaddedUpper 8 value
  | constantTag tag index => s!"unsupported constant pool tag {tag} at index {index}"
  | twoSlotOverrun index count =>
    s!"two-slot constant at index {index} overruns a pool of {count} slots"
  | notText index => s!"constant pool index {index} is not a Utf8 entry"
  | notClass index => s!"constant pool index {index} is not a Class entry"
  | textByte byte => "invalid modified UTF-8 byte 0x" ++ Text.hexPadded 2 byte
  | textTruncated => "truncated modified UTF-8 sequence"
  | tooMany part count => s!"too many {part}: {count}"
  | attributeTooLong => "attribute longer than 4 GiB"
  | valuesTooDeep => "annotation element values nested too deeply"
  | valueTag tag => "unknown element value tag 0x" ++ Text.hexPadded 2 tag
  | descriptor text fault =>
    "invalid annotation descriptor " ++ Text.quoted text ++ ": " ++ fault.message
  | notClassType text => "annotation descriptor " ++ Text.quoted text ++ " is not a class type"
  | layout fault => "invalid class file: I/O Error: " ++ fault.message
  | unreadableArchive => "unreadable archive"
  | directoryRecordTruncated => "truncated central directory record"
  | directoryStartsPastEnd => "central directory starts past the end of the data"
  | directoryTooLarge => "too large to re-index without repeated entries"
  | archiveTooLarge => "too large to be written"

def message (fault : Malformation) : String := "malformed artifact: " ++ fault.detail

end Malformation

end Unannotate
