import DartClient.Proofs.Client.Independence
import DartClient.Proofs.Manifest.Scope
import DartClient.Proofs.Page.Paths
import DartClient.Proofs.Text.LineEnds

/-!
# Where the files of a client stand

Every file but the description of the package stands in the folder of the library: the page of the
library and the page with the encoders directly in it, every other page in a folder for its kind,
which has a fixed name, or in the folder of an enum below that of the types. The files and the
folders of enums are called after names of the description, spelled in lower case with underscores.
Spelling leaves out slashes, backslashes and dots, whatever stands in a name, so no name leads
anywhere else.

Most files are called after what a program declares. A variant is found through the manifest of its
type: the type is an enum or a size around one, since the manifest of any other type, a link to an
enum included, has no variants.

## Main definitions

* `Idl.Program.Declares`: what the units of a program generate.
* `Idl.Program.Files`: the folders of the files of a program, and the names they are called after.

## Main results

* `Resolver.exists_variants_of_builds`: the variants of a manifest are those of its type.
* `files_of_mem_pages`: where the pages of a unit stand.
* `file_stays_in_library`: where the files of a client stand.
-/

namespace DartClient

open Idl (Root Program Account Instruction InstructionAccount DefinedType Pda TypeNode EnumVariant
  NumberFormat)

/-- What the units of a program generate: what the program declares, and the derived addresses that
accounts of its instructions introduce. -/
inductive Idl.Program.Declares (program : Program) : UnitContent → Prop
  | program : Declares program .program
  | errors : Declares program .errors
  | account {account : Account} (h : account ∈ program.accounts) :
    Declares program (.account account)
  | definedType {type : DefinedType} (h : type ∈ program.definedTypes) :
    Declares program (.definedType type)
  | instruction {instruction : Instruction} (h : instruction ∈ program.instructions) :
    Declares program (.instruction instruction)
  | pda {pda : Pda} (h : pda ∈ program.pdas) : Declares program (.pda pda)
  | inlinePda {instruction : Instruction} {account : InstructionAccount} {pda : Pda}
    (hinstruction : instruction ∈ program.instructions)
    (haccount : account ∈ instruction.accounts) (hpda : account.inlinePda? = some pda) :
    Declares program (.pda pda)

/-- A file of a program stands in a folder and is called after a name. The name of a variant has
been spelled as that of a class before. -/
inductive Idl.Program.Files (program : Program) : String → String → Prop
  | program : Files program "programs" program.name
  | errors : Files program "errors" program.name
  | account {account : Account} (h : program.Declares (.account account)) :
    Files program "accounts" account.name
  | definedType {type : DefinedType} (h : program.Declares (.definedType type)) :
    Files program "types" type.name
  | variant {type : DefinedType} {variants : List EnumVariant} {size : Idl.NumberType}
    {variant : EnumVariant} (h : program.Declares (.definedType type))
    (henum : type.type.core = .enum variants size) (hvariant : variant ∈ variants) :
    Files program ("types/" ++ fileStem type.name) (className variant.name)
  | instruction {instruction : Instruction} (h : program.Declares (.instruction instruction)) :
    Files program "instructions" instruction.name
  | pda {pda : Pda} (h : program.Declares (.pda pda)) : Files program "pdas" pda.name

/-! ## Variants -/

namespace Resolver

variable {resolver : Resolver} {node : TypeNode} {ctx : ResolveContext} {manifest : Manifest}
  {size : NumberFormat} {variants : List VariantManifest}

theorem exists_variants_of_composes {children : List Manifest}
    (h : resolver.Composes ctx node children manifest) (hclass : node.isClass = true)
    (hdeclares : ctx.declares = false) (hshape : manifest.shape = .enum size variants) :
    ∃ nodes number, node = .enum nodes number ∧
      variants.map VariantManifest.name = nodes.map fun variant => className variant.name := by
  cases h with
  | leaf hfree | around _ _ hfree => exact absurd hclass (by simp [hfree])
  | sized _ hsized =>
    exact absurd hclass (by simp [TypeNode.isClass_eq_false_of_sized? hsized])
  | map | tuple | structLink | enumLink => cases hclass
  | struct =>
    rw [shape_structClass hdeclares] at hshape
    cases hshape
  | @enum nodes format parts hparts =>
    rw [shape_enumClass hdeclares] at hshape
    obtain ⟨-, rfl⟩ := Shape.enum.inj hshape
    exact ⟨nodes, _, rfl, map_name_ofVariants 0 hparts.length_eq⟩

/-- **The variants of a manifest are those of its type**, where the type itself becomes a class. -/
theorem exists_variants_of_builds (h : resolver.Builds node ctx manifest)
    (hdeclares : ctx.declares = false) (hshape : manifest.shape = .enum size variants) :
    ∃ nodes number, node.core = .enum nodes number ∧
      variants.map VariantManifest.name = nodes.map fun variant => className variant.name := by
  cases hcore : node.core.isClass with
  | false =>
    rw [shape_eq_plain_of_builds h hcore] at hshape
    cases hshape
  | true =>
    obtain ⟨depth, children, cls, hcls, hsame, -⟩ := exists_class_of_builds h hcore
    exact exists_variants_of_composes hcls hcore hdeclares (hsame.symm.trans hshape)

end Resolver

/-! ## Units -/

section Units

variable {program : Program} {path : List PathNode} {part : ClientUnit}

theorem mem_of_mem_newPdas {pda : Pda} {pdas : List Pda} : ∀ {known : List String},
    pda ∈ (newPdas known pdas).1 → pda ∈ pdas := by
  induction pdas with
  | nil => exact fun h => h
  | cons first pdas ih =>
    intro known h
    unfold newPdas at h
    split at h
    · exact List.mem_cons_of_mem _ (ih h)
    · rcases List.mem_cons.mp h with rfl | h
      · exact List.mem_cons_self
      · exact List.mem_cons_of_mem _ (ih h)

theorem declares_of_mem_instructionUnits {instructions : List Instruction}
    (hdeclared : ∀ instruction ∈ instructions, instruction ∈ program.instructions) :
    ∀ {known : List String}, part ∈ instructionUnits path known instructions →
      program.Declares part.content := by
  induction instructions with
  | nil =>
    intro known h
    cases h
  | cons instruction instructions ih =>
    intro known h
    obtain ⟨hinstruction, hinstructions⟩ := List.forall_mem_cons.mp hdeclared
    simp only [instructionUnits, List.cons_append, List.mem_cons, List.mem_append,
      List.mem_map] at h
    rcases h with rfl | ⟨pda, hpda, rfl⟩ | h
    · exact .instruction hinstruction
    · obtain ⟨account, haccount, hpda⟩ := List.mem_filterMap.mp (mem_of_mem_newPdas hpda)
      exact .inlinePda hinstruction haccount hpda
    · exact ih hinstructions h

/-- A unit of a program generates what the program declares or introduces. -/
theorem declares_of_mem_units (h : part ∈ program.units path) :
    program.Declares part.content := by
  simp only [Idl.Program.units, List.mem_append, List.mem_map] at h
  rcases h with
    ((((h | h) | ⟨account, haccount, rfl⟩) | ⟨type, htype, rfl⟩) | ⟨pda, hpda, rfl⟩) | h
  · obtain rfl := List.mem_singleton.mp h
    exact .program
  · split at h
    · cases h
    · obtain rfl := List.mem_singleton.mp h
      exact .errors
  · exact .account haccount
  · exact .definedType htype
  · exact .pda hpda
  · exact declares_of_mem_instructionUnits (fun _ hinstruction => hinstruction) h

end Units

/-! ## Pages -/

section Pages

variable {root : Root} {settings : Settings} {program : Program} {page : Page}

/-- The pages of a type stand among the types, those of its variants in a folder of the type. -/
theorem files_of_mem_typePagesOf {resolver : Resolver} {type : DefinedType} {manifest : Manifest}
    (htype : program.Declares (.definedType type))
    (hbuilds : resolver.Builds type.type (.root (className type.name) .type) manifest)
    (hpage : page ∈ typePagesOf type manifest) :
    ∃ folder name, program.Files folder name ∧
      page.path = generatedModule folder (fileStem name) := by
  unfold typePagesOf at hpage
  split at hpage
  case h_1 =>
    obtain rfl := List.mem_singleton.mp hpage
    exact ⟨_, _, .definedType htype, rfl⟩
  case h_2 hshape =>
    rcases List.mem_cons.mp hpage with rfl | hpage
    · exact ⟨_, _, .definedType htype, rfl⟩
    · obtain ⟨variant, hvariant, rfl⟩ := List.mem_map.mp hpage
      obtain ⟨nodes, number, henum, hnames⟩ :=
        Resolver.exists_variants_of_builds hbuilds rfl hshape
      have hname : variant.name ∈ nodes.map fun node => className node.name := by
        rw [← hnames]
        exact List.mem_map_of_mem hvariant
      obtain ⟨node, hnode, hname⟩ := List.mem_map.mp hname
      refine ⟨_, _, .variant htype henum hnode, ?_⟩
      rw [hname]
      rfl
  case h_3 =>
    obtain rfl := List.mem_singleton.mp hpage
    exact ⟨_, _, .definedType htype, rfl⟩

/-- **Where the pages of a unit stand.** -/
theorem files_of_mem_pages {part : ClientUnit} {rendering : Rendering}
    (hprogram : part.program? = some program) (hdeclares : program.Declares part.content)
    (hgenerate : part.generate (.ofRoot root) settings = .ok rendering)
    (hpage : page ∈ rendering.pages) :
    ∃ folder name, program.Files folder name ∧
      page.path = generatedModule folder (fileStem name) := by
  have hown : page ∈ (unitResult root settings part).pages := by
    simpa only [unitResult, UnitResult.pages, hgenerate] using hpage
  rw [ClientUnit.generate, hprogram] at hgenerate
  -- Accounts, instructions and derived addresses have one place each.
  cases hcontent : part.content with
  | account account =>
    rw [hcontent] at hdeclares
    exact ⟨_, _, .account hdeclares, path_of_ownModule? (by rw [hcontent, ownModule?]) hown⟩
  | instruction instruction =>
    rw [hcontent] at hdeclares
    exact ⟨_, _, .instruction hdeclares, path_of_ownModule? (by rw [hcontent, ownModule?]) hown⟩
  | pda pda =>
    rw [hcontent] at hdeclares
    exact ⟨_, _, .pda hdeclares, path_of_ownModule? (by rw [hcontent, ownModule?]) hown⟩
  | definedType type =>
    rw [hcontent] at hdeclares hgenerate
    obtain ⟨manifest, hmanifest, hgenerate⟩ := Resolved.bind_eq_ok_iff.mp hgenerate
    obtain rfl := Except.ok.inj hgenerate
    exact files_of_mem_typePagesOf hdeclares (Resolver.builds_of_resolve hmanifest) hpage
  | program =>
    rw [hcontent] at hgenerate
    obtain ⟨programPage, hprogramPage, hgenerate⟩ := Resolved.bind_eq_ok_iff.mp hgenerate
    obtain rfl := Except.ok.inj hgenerate
    obtain ⟨address, -, hprogramPage⟩ := Resolved.bind_eq_ok_iff.mp hprogramPage
    obtain rfl := Except.ok.inj hprogramPage
    obtain rfl := List.mem_singleton.mp hpage
    exact ⟨_, _, .program, rfl⟩
  | errors =>
    rw [hcontent] at hgenerate
    obtain rfl := Except.ok.inj hgenerate
    have hpage : page ∈ errorsPage? program := Option.mem_toList.mp hpage
    unfold errorsPage? at hpage
    split at hpage
    · cases hpage
    · obtain rfl := Option.some.inj hpage
      exact ⟨_, _, .errors, rfl⟩

/-- **Where the pages of a client stand**: the page with the encoders and that of the library have
places of their own, every other page belongs to a program. -/
theorem files_of_mem_clientPages
    (hpage : page ∈ clientPages (unitResults root settings) settings) :
    page.path = encoderModule ∨ page.path = settings.libraryName ++ ".dart" ∨
      ∃ program ∈ root.programs, ∃ folder name, program.Files folder name ∧
        page.path = generatedModule folder (fileStem name) := by
  rcases exists_unit_of_mem_clientPages hpage with
    rfl | ⟨paths, rfl⟩ | ⟨part, hpart, rendering, hgenerate, hpage⟩
  · exact .inl rfl
  · exact .inr (.inl rfl)
  · obtain ⟨program, hprogram, hpart⟩ := List.mem_flatMap.mp hpart
    exact .inr (.inr ⟨program, hprogram, files_of_mem_pages
      (liesIn_of_mem_units hpart).program?_eq (declares_of_mem_units hpart) hgenerate hpage⟩)

end Pages

/-! ## Files -/

/-- No folder of a file leads elsewhere. -/
theorem Idl.Program.Files.isPlain {program : Program} {folder name : String}
    (h : program.Files folder name) : IsPlain (generatedModule folder (fileStem name)) := by
  refine isPlain_generatedModule ?_ name
  cases h with
  | @variant type =>
    have htypes : IsPlain "types" := by decide
    have hfolder : IsPlain ("types" ++ "/" ++ fileStem type.name) :=
      isPlain_append htypes (isPlain_fileStem type.name)
    exact hfolder
  | program | errors | account | definedType | instruction | pda => decide

/-- No file has a line end in its path. -/
theorem Idl.Program.Files.oneLine {program : Program} {folder name : String}
    (h : program.Files folder name) : Text.OneLine (generatedModule folder (fileStem name)) := by
  have hfolder : Text.OneLine folder := by
    cases h with
    | @variant type =>
      have htypes : Text.OneLine "types/" := by decide
      exact htypes.append (Text.oneLine_snake type.name)
    | program | errors | account | definedType | instruction | pda => decide
  have hslash : Text.OneLine "/" := by decide
  have hend : Text.OneLine ".dart" := by decide
  exact ((hfolder.append hslash).append (Text.oneLine_snake name)).append hend

/-- **Names do not lead out of the library.** A file of a client is the description of the package,
the page of the library or the page with the encoders, or it stands in the library in a folder of a
program and is called after a name. No part of the path from the library to such a file stands for
another folder, since no name of a file or of a folder of variants has a slash, a backslash or a dot
in it, whatever it is made of. -/
theorem file_stays_in_library {root : Root} {settings : Settings} {path : String}
    (h : path ∈ (generateClient root settings).files) :
    (path = pubspecPath ∨ path = indexPath settings ∨
      path = settings.libraryName ++ "/" ++ encoderModule ∨
      ∃ program ∈ root.programs, ∃ folder name, program.Files folder name ∧
        path = settings.libraryName ++ "/" ++ generatedModule folder (fileStem name) ∧
        IsPlain (generatedModule folder (fileStem name))) ∧
    ∀ name, ∀ c ∈ ['/', '\\', '.'], c ∉ (fileStem name).toList := by
  refine ⟨?_, fun name _ => not_mem_fileStem name⟩
  rcases mem_clientFiles.mp h with rfl | ⟨page, hpage, rfl⟩
  · exact .inl rfl
  · rw [clientPath]
    rcases files_of_mem_clientPages hpage with
      hencoders | hindex | ⟨program, hprogram, folder, name, hfiles, hplace⟩
    · exact .inr (.inr (.inl (by rw [hencoders])))
    · exact .inr (.inl (by rw [hindex, indexPath]))
    · exact .inr (.inr (.inr ⟨program, hprogram, folder, name, hfiles, by rw [hplace],
        hfiles.isPlain⟩))

/-- A program whose names are paths that lead elsewhere. -/
def climbing : Root where
  standard := "codama"
  version := "1.0.0"
  program := { Idl.Program.ofTypes "../out"
      [⟨"..\\..\\shape", .enum [.empty "/etc/round", .empty ".."] ⟨.u8, .little⟩, []⟩] with
    publicKey := "11111111111111111111111111111111" }
  additionalPrograms := []

/-- The file of a variant that is called like a path from the root stands in the folder of the type
all the same. -/
theorem file_stays_in_library_climbing :
    "lib/types/shape/etc_round.dart" ∈ (generateClient climbing .default).files ∧
    ∃ program ∈ climbing.programs, ∃ folder name, program.Files folder name ∧
      "lib/types/shape/etc_round.dart" =
        Settings.default.libraryName ++ "/" ++ generatedModule folder (fileStem name) ∧
      IsPlain (generatedModule folder (fileStem name)) := by
  have hmem : "lib/types/shape/etc_round.dart" ∈ (generateClient climbing .default).files := by
    decide +kernel
  obtain ⟨hpubspec | hindex | hencoders | hfiles, -⟩ := file_stays_in_library hmem
  · exact absurd hpubspec (by decide)
  · exact absurd hindex (by decide)
  · exact absurd hencoders (by decide)
  · exact ⟨hmem, hfiles⟩

end DartClient
