import Blockware.Proofs.FirstOccurrences
import Blockware.Proofs.Program.Linking
import Blockware.Proofs.Text.Lines

/-!
# What a program requires

A program is asked for headers and libraries in many places, by some of them more than once. It
prints each header and links each library once.

- `askedHeaders`, `askedLibraries`: everything that is asked for, as often as it is.
- `takeWhile_lines_source`: the header lines are what a reader of the source text finds before its
  first empty line, unless one of them was broken to begin with.
- `headers_are_printed_once`: they are the first occurrences of what is asked for.
- `libraries_are_linked_once`: so are the libraries of a manifest, and those that contracts need
  are among them.
-/

namespace Blockware

/-- The header lines that modules, peripherals and definitions ask for. -/
def askedHeaders (s : Snapshot) (blocks : List Block) (modules : List String) : List String :=
  (knownModules modules).flatMap BoardModule.headers ++
    ((walk blocks).filterMap fun b => (Peripheral.ofType? b.type).map Peripheral.header) ++
    (walk blocks).flatMap fun b =>
      match s.contract? b.type with
      | some (.custom d) => d.code.headers.map includeLine
      | _ => []

/-- The libraries that every program, module names, peripherals and contracts ask for. -/
def askedLibraries (s : Snapshot) (blocks : List Block) (modules : List String) : List String :=
  "pico_stdlib" :: modules.map BoardModule.library ++
    (walk blocks).flatMap fun b =>
      ((Peripheral.ofType? b.type).map Peripheral.library).toList ++ s.librariesOf b.type

/-! ### Header lines -/

/-- A header line is not empty, and nothing at its end would be taken for a line end. -/
structure IsHeaderLine (l : String) : Prop where
  nonempty : l ≠ ""
  noReturn : l.toList.getLast? ≠ some '\r'

theorem isHeaderLine_includeLine (header : String) : IsHeaderLine (includeLine header) := by
  -- Blanks at the ends are taken off first, and a carriage return is one.
  have trimmed : (Text.trim header).toList.getLast? ≠ some '\r' := by
    intro ends
    exact absurd (Text.not_isBlank_of_getLast?_trim ends) (by decide)
  unfold includeLine
  simp only
  split
  · rename_i whole
    refine ⟨?_, trimmed⟩
    intro empty
    rw [empty] at whole
    exact absurd whole (by decide)
  · split
    · exact ⟨by simp, Text.getLast?_append_ne (by decide) trimmed⟩
    · exact ⟨by simp, Text.getLast?_append_ne (by decide) trimmed⟩
    · exact ⟨by simp, Text.getLast?_append_ne
        (Text.getLast?_append_ne (by decide) trimmed) (by decide)⟩

theorem isHeaderLine_of_mem_askedHeaders {s : Snapshot} {blocks : List Block}
    {modules : List String} {l : String} (h : l ∈ askedHeaders s blocks modules) :
    IsHeaderLine l := by
  rw [askedHeaders, List.mem_append, List.mem_append, List.mem_flatMap, List.mem_filterMap,
    List.mem_flatMap] at h
  rcases h with (⟨m, -, own⟩ | ⟨b, -, own⟩) | ⟨b, -, own⟩
  · cases m <;> rw [List.mem_singleton.mp own] <;> exact ⟨by decide, by decide⟩
  · obtain ⟨p, -, rfl⟩ := Option.map_eq_some_iff.mp own
    cases p <;> exact ⟨by decide, by decide⟩
  · split at own
    · obtain ⟨header, -, rfl⟩ := List.mem_map.mp own
      exact isHeaderLine_includeLine header
    · exact absurd own List.not_mem_nil

theorem isHeaderLine_commonHeaders :
    ∀ l ∈ Program.commonHeaders, IsHeaderLine l ∧ '\n' ∉ l.toList := by
  rw [Program.commonHeaders, List.forall_mem_cons, List.forall_mem_singleton]
  exact ⟨⟨⟨by decide, by decide⟩, by decide⟩, ⟨by decide, by decide⟩, by decide⟩

/-- A reader finds lines that are printed before an empty one. -/
theorem takeWhile_lines_unlines {printed rest : List String}
    (h : ∀ l ∈ printed, IsHeaderLine l ∧ '\n' ∉ l.toList) :
    (Text.lines (unlines (printed ++ "" :: rest))).takeWhile (· ≠ "") = printed := by
  have isLine : ∀ l ∈ printed ++ [""], Text.IsLine l := by
    intro l hl
    rcases List.mem_append.mp hl with header | blank
    · exact ⟨(h l header).2, (h l header).1.noReturn⟩
    · rw [List.mem_singleton.mp blank]
      exact ⟨by decide, by decide⟩
  have text : unlines (printed ++ "" :: rest) = unlines (printed ++ [""]) ++ unlines rest := by
    simp [unlines, String.append_assoc]
  have nonempty : ∀ l ∈ printed, decide (l ≠ "") := by
    intro l hl
    exact decide_eq_true (h l hl).1.nonempty
  rw [text, Text.lines_unlines_append isLine, List.append_assoc,
    List.takeWhile_append_of_pos nonempty]
  simp

/-! ### The source and the manifest -/

/-- **Headers are printed once**: a source text begins with the headers of every program and with
all that modules, peripherals and definitions ask for, each at the place where it is first asked
for, and with an empty line after them. A program by itself keeps just what is asked for, in the
same way. If none of these lines is broken, they are what a reader of the text finds before its
first empty line. -/
theorem headers_are_printed_once (s : Snapshot) (heartbeat : Nat) (projectName : String)
    (blocks : List Block) (modules : List String) :
    let p := Program.generate s heartbeat projectName blocks modules
    let asked := askedHeaders s blocks modules
    ∃ printed rest : List String,
      p.source = unlines (printed ++ "" :: rest) ∧
      FirstOccurrences (Program.commonHeaders ++ asked) printed ∧ printed.Nodup ∧
      FirstOccurrences asked p.headers ∧ p.headers.Nodup ∧
      ((∀ l ∈ asked, '\n' ∉ l.toList) →
        (Text.lines p.source).takeWhile (· ≠ "") = printed) := by
  intro p asked
  have own : FirstOccurrences asked p.headers := firstOccurrences_eraseDups asked
  have printed : FirstOccurrences (Program.commonHeaders ++ asked) p.headerLines :=
    own.after (firstOccurrences_eraseDups (Program.commonHeaders ++ p.headers))
  have source : p.source = unlines (p.headerLines ++ "" ::
      ((p.functions.flatMap fun f => f.lines ++ [""]) ++ p.mainLines)) := by
    rw [Program.source, Program.lines]
    simp
  refine ⟨p.headerLines, _, source, printed, printed.nodup, own, own.nodup, ?_⟩
  intro unbroken
  rw [source]
  refine takeWhile_lines_unlines ?_
  intro l hl
  rcases List.mem_append.mp ((printed.mem_iff l).mp hl) with common | asks
  · exact isHeaderLine_commonHeaders l common
  · exact ⟨isHeaderLine_of_mem_askedHeaders asks, unbroken l asks⟩

/-- A module in two spellings, an unknown type in a conditional, and a definition that asks for a
header of every program: five headers are printed. Neither the body of a block that is no container
nor the definition behind a built-in type asks for any. -/
theorem flash_program_prints_five_headers :
    let flash : Definition := ⟨"spi_flash", "Flash", .loop, "#e05a00", none, [],
      { headers := ["hardware/flash.h", " <stdio.h> "] }⟩
    let nap : Definition := ⟨"sleep", "Nap", .loop, "#808080", none, [], { headers := ["nap.h"] }⟩
    let fade : Block := ⟨"fade", "pwm_fade", [], []⟩
    let log : Block := ⟨"log", "spi_flash", [], []⟩
    let blocks : List Block := [⟨"dark", "if_condition", [], [log, fade]⟩, log,
      ⟨"wait", "sleep", [], [⟨"scan", "i2c_scan", [], []⟩]⟩]
    let modules := ["SPI", "ethernet", "spi"]
    let s := Snapshot.ofDefinitions [flash, nap]
    let p := Program.generate s defaultHeartbeat "demo" blocks modules
    (∀ l ∈ askedHeaders s blocks modules, '\n' ∉ l.toList) ∧
    (Text.lines p.source).takeWhile (· ≠ "") =
      ["#include <stdio.h>", "#include \"pico/stdlib.h\"", "#include \"hardware/spi.h\"",
        "#include \"hardware/pwm.h\"", "#include \"hardware/flash.h\""] := by
  intro flash nap fade log blocks modules s p
  have unbroken : ∀ l ∈ askedHeaders s blocks modules, '\n' ∉ l.toList := by
    rw [askedHeaders, walk_eq_preorder]
    decide
  obtain ⟨printed, -, -, first, -, -, -, found⟩ :=
    headers_are_printed_once s defaultHeartbeat "demo" blocks modules
  refine ⟨unbroken, (found unbroken).trans ?_⟩
  rw [first.eq_eraseDups, askedHeaders, walk_eq_preorder]
  decide

/-- **Libraries are linked once**: a manifest has the library of every program first, and then all
that module names, peripherals and contracts ask for, each at the place where it is first asked for.
The libraries that contracts need are kept in the same way, and none of them is missing from the
manifest. -/
theorem libraries_are_linked_once (s : Snapshot) (projectName : String) (blocks : List Block)
    (modules : List String) :
    let linked := (Manifest.build s projectName blocks modules).libraries
    let needed := s.neededLibraries blocks
    FirstOccurrences (askedLibraries s blocks modules) linked ∧ linked.Nodup ∧
      linked.head? = some "pico_stdlib" ∧
      FirstOccurrences ((walk blocks).flatMap fun b => s.librariesOf b.type) needed ∧
      needed ⊆ linked := by
  intro linked needed
  have kept : FirstOccurrences (askedLibraries s blocks modules) linked :=
    firstOccurrences_eraseDups (askedLibraries s blocks modules)
  have declared : FirstOccurrences ((walk blocks).flatMap fun b => s.librariesOf b.type) needed :=
    firstOccurrences_eraseDups _
  refine ⟨kept, kept.nodup, kept.head?_eq, declared, ?_⟩
  intro library h
  obtain ⟨b, visited, asks⟩ := List.mem_flatMap.mp ((declared.mem_iff library).mp h)
  refine (kept.mem_iff library).mpr (List.mem_append_right _ ?_)
  exact List.mem_flatMap.mpr ⟨b, visited, List.mem_append_right _ asks⟩

end Blockware
