import Formulary.Text.Blank
import Formulary.Text.Utf8

/-!
Uploaded files. An upload is taken as a template if it is UTF-8 text with something in it; a file of
a word processor, which is a ZIP archive, is told by its first octets. One byte-order mark in front
of the text is no part of it.
-/

namespace Formulary.Template

open Text

inductive UploadFault where
  /-- A ZIP archive, such as a word processor writes. -/
  | archive
  | notText (fault : Utf8Fault)
  | blank
  /-- Reported by a converter, in its own words. -/
  | told (reason : String)
deriving DecidableEq, Repr

def UploadFault.message : UploadFault → String
  | archive =>
    "not a valid document: binary .docx input needs a document converter; provide the template as HTML"
  | notText fault => "not a valid document: not UTF-8 text (" ++ fault.message ++ ")"
  | blank => "not a valid document: the file is empty"
  | told reason => reason

def archiveMark : List UInt8 := [0x50, 0x4B, 0x03, 0x04]

def dropByteOrderMark (s : String) : String :=
  match s.toList with
  | '\ufeff' :: rest => String.ofList rest
  | _ => s

/-- The text of an upload that is text already. -/
def ofUpload (bytes : List UInt8) : Except UploadFault String :=
  if archiveMark.isPrefixOf bytes then .error .archive
  else
    match ofUtf8 bytes with
    | .error fault => .error (.notText fault)
    | .ok s =>
      let html := dropByteOrderMark s
      if allBlank html then .error .blank else .ok html

end Formulary.Template
