/-
# Checking a live schema

A check reads a metadata document and a catalog document and succeeds or not:

* `run_check` : it succeeds exactly if the two do not differ, and it changes no file.
-/
import Mathlib
import SchemaDdl.Command.Directory

namespace SchemaDdl.Command

/-! ## Documents in a directory -/

/-- The metadata in a file of a directory. -/
def Directory.metadata? (files : Directory) (path : String) : Option Metadata :=
  (files.read path).bind Metadata.read?

/-- The live schema in a file of a directory. -/
def Directory.catalog? (files : Directory) (path : String) : Option LiveSchema :=
  (files.read path).bind LiveSchema.read?

/-- Reading a file changes nothing. -/
theorem read_directoryAccess_run (files : Directory) (path : String) :
    (directoryAccess.read path).run files = pure (files.read path, files) :=
  rfl

/-- Metadata that is there is loaded, and the files stay as they are. -/
theorem loadMetadata_run {files : Directory} {path : String} {metadata : Metadata}
    (h : files.metadata? path = some metadata) :
    (loadMetadata directoryAccess path).run.run files = pure (.ok metadata, files) := by
  obtain ⟨text, htext, hread⟩ := Option.bind_eq_some_iff.mp h
  simp [loadMetadata, orFail, read_directoryAccess_run, htext, hread]

/-- A live schema that is there is loaded, and the files stay as they are. -/
theorem loadCatalog_run {files : Directory} {path : String} {live : LiveSchema}
    (h : files.catalog? path = some live) :
    (loadCatalog directoryAccess path).run.run files = pure (.ok live, files) := by
  obtain ⟨text, htext, hread⟩ := Option.bind_eq_some_iff.mp h
  simp [loadCatalog, orFail, read_directoryAccess_run, htext, hread]

/-! ## The outcome of a check -/

/-- The outcome of a check prints nothing, and its exit code tells whether there is a
difference. -/
def checkOutcome (diff : Drift.SchemaDiff) : Outcome :=
  if diff.hasChanges then ⟨1, "", none⟩ else .printed ""

/-- A check of two documents that can be read ends by their difference. -/
theorem run_check {files : Directory} {schemaPath livePath : String} {metadata : Metadata}
    {live : LiveSchema} (hschema : files.metadata? schemaPath = some metadata)
    (hlive : files.catalog? livePath = some live) (d : Dialect) :
    (run directoryAccess (.run d (.check schemaPath livePath))).run files =
      (checkOutcome (Drift.compare metadata.schema live d), files) := by
  have hmetadata := loadMetadata_run hschema
  have hcatalog := loadCatalog_run hlive
  unfold checkOutcome run perform
  by_cases hchanges : (Drift.compare metadata.schema live d).hasChanges = true
  · simp [hmetadata, hcatalog, hchanges]
    rfl
  · simp [hmetadata, hcatalog, hchanges]
    rfl

end SchemaDdl.Command
