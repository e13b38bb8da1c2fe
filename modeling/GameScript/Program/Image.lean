import GameScript.Program.Basic

/-! Program images: a signature, a version, the name of the section, then the routines. -/

namespace GameScript

open Codec

inductive ImageFault where
  | truncated
  | badMagic
  | unsupportedVersion
  | badSection
  | trailingBytes
  | malformed (fault : DecodeFault)
deriving DecidableEq, Repr

def ImageFault.message : ImageFault → String
  | .truncated => "decoding error: truncated"
  | .badMagic => "decoding error: bad magic"
  | .unsupportedVersion => "decoding error: unsupported version"
  | .badSection => "decoding error: bad prefix"
  | .trailingBytes => "decoding error: trailing bytes"
  | .malformed fault => "decoding error: " ++ fault.message

namespace Program

/-- The bytes every image starts with, `SVM_BC`. -/
def magic : Bytes := [0x53, 0x56, 0x4d, 0x5f, 0x42, 0x43]

/-- Major, minor and patch number of the format. -/
def version : Bytes := [1, 0, 0]

/-- The name of the section, `MODULE`. -/
def sectionName : Bytes := [0x4d, 0x4f, 0x44, 0x55, 0x4c, 0x45]

def sectionFormat : Format := .list .word8

def toImage (program : Program) : Bytes :=
  magic ++ version ++ sectionFormat.encode sectionName ++ encode program

/-- Goes on with a decoder's value, or reports what it found wrong. -/
def expecting (decoder : Decoder α) (input : Bytes) (next : α → Bytes → Except ImageFault β) :
    Except ImageFault β :=
  match decoder input with
  | (.ok value, rest) => next value rest
  | (.error fault, _) => .error (.malformed fault)

/-- Reads an image, which must have this signature, version and section and nothing after it. -/
def ofImage (input : Bytes) : Except ImageFault Program :=
  if input.length < magic.length then .error .truncated
  else if input.take magic.length ≠ magic then .error .badMagic
  else
    expecting (Decoder.replicate 3 (Format.decode .word8)) (input.drop magic.length)
        fun (found : List UInt8) rest =>
      if found ≠ version then .error .unsupportedVersion
      else expecting sectionFormat.decode rest fun (name : List UInt8) rest =>
        if name ≠ sectionName then .error .badSection
        else expecting decode rest fun program rest =>
          if rest.isEmpty then .ok program else .error .trailingBytes

end Program
end GameScript
