import BuildRemarks.Json.Reader
import BuildRemarks.Location

/-!
# Locations in JSON
-/

namespace BuildRemarks.Location

open Json

def schema : Schema Location where
  title := "Location"
  start := .unknown
  lenient := false
  fields :=
    [.may "file" (.option .string) fun l v => { l with file := v },
      .may "line" (.option .uint32) fun l v => { l with line := v },
      .may "column" (.option .uint32) fun l v => { l with column := v },
      .may "function" (.option .string) fun l v => { l with function := v },
      .may "region" (.option .string) fun l v => { l with region := v }]

def read : Reader Location := schema.read

def form (l : Location) : Value :=
  .object
    [("file", .option .string l.file),
      ("line", .option .halfWord l.line),
      ("column", .option .halfWord l.column),
      ("function", .option .string l.function),
      ("region", .option .string l.region)]

end BuildRemarks.Location
