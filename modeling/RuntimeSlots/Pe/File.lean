import RuntimeSlots.Pe.Exports
import RuntimeSlots.Pe.Imports

/-!
# PE images as object files

A PE image has the symbols of its COFF symbol table, if it kept one that can be read, and its
export and import tables.
-/

namespace RuntimeSlots.Pe

/-- Reads a PE image whose addresses have the given width. -/
def read (width : Width) (file : Bytes) : Except Fault (ObjectFile Fault) := do
  let image ← Image.read width file
  return {
    isImage := image.isImage
    symbols := image.symbols.symbols.mapError Fault.coff
    exportNames := image.exportNames
    importNames := image.importNames }

end RuntimeSlots.Pe
