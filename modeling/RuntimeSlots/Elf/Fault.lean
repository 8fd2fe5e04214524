/-!
# Faults of ELF files

Everything that can keep an ELF file, or one of its lists of names, from being read.
-/

namespace RuntimeSlots.Elf

/-- What can be wrong with an ELF file. -/
inductive Fault
  | header
  | unsupportedHeader
  | sectionEntrySize
  | firstSection
  | missingSectionsForPrograms
  | programEntrySize
  | programHeaders
  | sectionHeaders
  | missingSectionNames
  | sectionNamesIndex
  | sectionNamesSize
  | symbolTableData
  | sectionIndex
  | stringSectionType
  | stringSectionRange
  | extendedIndexData
  | relocationTarget
  | relocationOfRelocation
  | symbolNameOffset
  | symbolNameText
  | versionTable
  | versionSymbolsType
  | definitionData
  | requirementData
  | definitionShort
  | definitionAux
  | definitionNext
  | definitionAuxShort
  | definitionAuxNext
  | definitionName
  | requirementShort
  | requirementAux
  | requirementNext
  | requirementAuxShort
  | requirementAuxNext
  | requirementName
  | requirementFile
  | versionIndex
deriving DecidableEq, Repr

/-- The text that reports the fault. -/
def Fault.message : Fault → String
  | header => "Invalid ELF header size or alignment"
  | unsupportedHeader => "Unsupported ELF header"
  | sectionEntrySize => "Invalid ELF section header entry size"
  | firstSection => "Invalid ELF section header offset or size"
  | missingSectionsForPrograms => "Missing ELF section headers for e_phnum overflow"
  | programEntrySize => "Invalid ELF program header entry size"
  | programHeaders => "Invalid ELF program header size or alignment"
  | sectionHeaders => "Invalid ELF section header offset/size/alignment"
  | missingSectionNames => "Missing ELF e_shstrndx"
  | sectionNamesIndex => "Invalid ELF e_shstrndx"
  | sectionNamesSize => "Invalid ELF shstrtab size"
  | symbolTableData => "Invalid ELF symbol table data"
  | sectionIndex => "Invalid ELF section index"
  | stringSectionType => "Invalid ELF string section type"
  | stringSectionRange => "Invalid ELF string section offset or size"
  | extendedIndexData => "Invalid ELF symtab_shndx data"
  | relocationTarget => "Invalid ELF sh_info for relocation section"
  | relocationOfRelocation => "Unsupported ELF sh_info for relocation section"
  | symbolNameOffset => "Invalid ELF symbol name offset"
  | symbolNameText => "Non UTF-8 ELF symbol name"
  | versionTable => "Invalid ELF GNU versym section offset or size"
  | versionSymbolsType => "Invalid ELF symbol table section type"
  | definitionData => "Invalid ELF GNU verdef section offset or size"
  | requirementData => "Invalid ELF GNU verneed section offset or size"
  | definitionShort => "ELF verdef is too short"
  | definitionAux => "Invalid ELF vd_aux"
  | definitionNext => "Invalid ELF vd_next"
  | definitionAuxShort => "ELF verdaux is too short"
  | definitionAuxNext => "Invalid ELF vda_next"
  | definitionName => "Invalid ELF vda_name"
  | requirementShort => "ELF verneed is too short"
  | requirementAux => "Invalid ELF vn_aux"
  | requirementNext => "Invalid ELF vn_next"
  | requirementAuxShort => "ELF vernaux is too short"
  | requirementAuxNext => "Invalid ELF vna_next"
  | requirementName => "Invalid ELF vna_name"
  | requirementFile => "Invalid ELF vn_file"
  | versionIndex => "Invalid ELF symbol version index"

end RuntimeSlots.Elf
