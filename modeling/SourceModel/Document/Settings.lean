import SourceModel.Config
import SourceModel.Document.Record
import SourceModel.Toml.Parse

namespace SourceModel.Document

open Toml (Value)

def formattingShape : Shape where
  keys := [("indent", .defaulted), ("newline", .defaulted)]
  ignores := fitsWords 128
  ignoresSurplus := true

def formatting? (value : Value) : Option Formatting := do
  let record ← formattingShape.ofValue? value
  let indent ← record.defaulted "indent" Formatting.standard.indent text?
  let newline ← record.defaulted "newline" Formatting.standard.newline text?
  some { indent, newline }

def configShape : Shape where
  keys := [("dialect", .defaulted), ("formatting", .defaulted)]
  ignores := fitsWords 128

def config? (value : Value) : Option Config := do
  let record ← configShape.ofValue? value
  let dialect ← record.defaulted "dialect" Config.standard.dialect text?
  let formatting ← record.defaulted "formatting" Config.standard.formatting formatting?
  some { dialect, formatting }

def parseConfig (text : String) : Option Config := (Toml.parse text).bind config?

end SourceModel.Document
