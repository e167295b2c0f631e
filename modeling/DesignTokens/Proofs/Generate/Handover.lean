import DesignTokens.Proofs.Generate.Emission
import DesignTokens.Proofs.Store.Publishing
import DesignTokens.Proofs.Theme.Page

namespace DesignTokens

theorem generate_sink_eq_ok {σ : Type} {sink : Sink (StateM σ)} {s s' : σ} {g : TokenGraph}
    {generator : Generator} {report : Report}
    (done : (generate g generator sink).run s = (.ok report, s')) :
    ∃ p outcomes, generator.run g = (p, none) ∧
      (publishAll sink p.artifacts).run s = (.ok outcomes, s') ∧
      report = ⟨p.tally, outcomes.count .written, outcomes.count .skipped⟩ := by
  obtain ⟨p, failure, walked⟩ : ∃ p failure, generator.run g = (p, failure) := ⟨_, _, rfl⟩
  obtain ⟨published, after, ran⟩ : ∃ published after,
      (publishAll sink p.artifacts).run s = (published, after) := ⟨_, _, rfl⟩
  rw [generate, walked] at done
  simp only [StateT.run_bind, ran] at done
  cases published with
  | error e => cases done
  | ok outcomes =>
    cases failure with
    | some e => cases done
    | none =>
      cases done
      exact ⟨p, outcomes, walked, ran, rfl⟩

/-- A run that succeeds writes its file, and what is read from the file is the emissions as
    declarations, one for each and in their order. -/
theorem generate_css_readable {g : TokenGraph} {path : Path} {store store' : Store}
    {report : Report} (tame : ∀ e ∈ g.emissions, e.Tame)
    (done : (generate g (.ofKind (.css path)) Store.sink).run store = (.ok report, store')) :
    report.tally.declarations = g.emissions.length ∧ report.written = 1 ∧ report.notWritten = 0 ∧
      ∃ text, store'.get? path = some text ∧
        Declaration.ofSheet text = .ok (g.emissions.map Emission.declaration) := by
  obtain ⟨p, outcomes, walked, published, rfl⟩ := generate_sink_eq_ok done
  obtain ⟨counted, artifacts⟩ := Generator.run_css walked
  have legible : ∀ d ∈ g.emissions.map Emission.declaration, d.Legible := by
    intro d hd
    obtain ⟨e, he, rfl⟩ := List.mem_map.1 hd
    exact e.legible (tame e he)
  obtain ⟨text, laid, read⟩ := Declaration.ofSheet_format_block heads_rootSelector legible
    ":root" (Sheet.textOf_chars _).symm
  rw [artifacts, Store.publishAll_singleton laid] at published
  cases published
  exact ⟨counted, rfl, rfl, text, by simp [Store.get?_write], read⟩

def kitToken (id name : String) (values : List (String × Option TokenValue)) : Variable :=
  ⟨id, name, "kit", .ofList values, false, .empty⟩

def kit : TokenGraph where
  collections := .ofList
    [("kit", ⟨"kit", "Kit", [⟨"l", "Light"⟩, ⟨"d", "Dark"⟩], "l", false, ["q", "on", "gone"],
      .empty⟩),
     ("raw", ⟨"raw", "*", [⟨"d", "Dark"⟩], "d", false, ["n"], .empty⟩)]
  tokens := .ofList
    [("q", kitToken "q" "Quote/Main"
      [("l", some (.concrete (.text "a;\x7b\x7d/* \" --x\n 1"))), ("d", some (.aliasOf "on"))]),
     ("on", kitToken "on" "on" [("l", some (.concrete (.boolean true)))]),
     ("n", kitToken "n" "?!" [("d", some (.concrete (.unsupported .null)))])]

def kitSheet : List Declaration :=
  [⟨"--kit-light-quote-main", "'a;\x7b\x7d/* \" --x\n 1'"⟩, ⟨"--kit-light-on", "true"⟩,
   ⟨"--kit-dark-quote-main", "true"⟩, ⟨"--", ""⟩]

theorem kit_readable : (∀ e ∈ kit.emissions, e.Tame) ∧
    ∃ store', (generate kit (.ofKind (.css ⟨"kit.css"⟩)) Store.sink).run Store.empty =
        (.ok ⟨⟨4, 1, 2⟩, 1, 0⟩, store') ∧
      ∃ text, store'.get? ⟨"kit.css"⟩ = some text ∧ Declaration.ofSheet text = .ok kitSheet := by
  have tame : ∀ e ∈ kit.emissions, e.Tame := by decide +kernel
  have sheet : kit.emissions.map Emission.declaration = kitSheet := by decide +kernel
  have report : ((generate kit (.ofKind (.css ⟨"kit.css"⟩)) Store.sink).run Store.empty).1 =
      .ok ⟨⟨4, 1, 2⟩, 1, 0⟩ := by decide +kernel
  obtain ⟨store', done⟩ : ∃ store',
      (generate kit (.ofKind (.css ⟨"kit.css"⟩)) Store.sink).run Store.empty =
        (.ok ⟨⟨4, 1, 2⟩, 1, 0⟩, store') := ⟨_, Prod.ext report rfl⟩
  obtain ⟨-, -, -, text, held, read⟩ := generate_css_readable tame done
  exact ⟨tame, store', done, text, held, sheet ▸ read⟩

end DesignTokens
