import DesignTokens.Settings.Load
import DesignTokens.Settings.Show
import DesignTokens.Proofs.Success

namespace DesignTokens.Settings

def Source.withToken (s : Source) (token : Option String) : Source :=
  { s with accessToken := token }

def withToken (s : Settings) (token : Option String) : Settings :=
  { s with source := s.source.withToken token }

variable {s : Settings} {o : Overrides} {token : Option String}
  {get get' : Key → Option String} {env env' : String → Option String}

theorem override_withToken (s : Settings) (o : Overrides) (token : Option String) :
    (s.withToken token).override o = (withToken · token) <$> s.override o := by
  simp only [override, map_bind, map_pure]
  rfl

def AlikeButToken (get get' : Key → Option String) : Prop :=
  ∀ key, key ≠ .accessToken → get key = get' key

theorem loadSource_alike (alike : AlikeButToken get get') : loadSource get' =
    (Source.withToken · ((get' .accessToken).map Text.stripped)) <$> loadSource get := by
  unfold loadSource
  simp only [← alike .apiUrl (by decide), ← alike .placeholder (by decide),
    ← alike .timeout (by decide), ← alike .fileId (by decide)]
  cases get .timeout <;> simp only [map_bind, map_pure] <;> rfl

theorem loadOutputs_alike (alike : AlikeButToken get get') : loadOutputs get' = loadOutputs get := by
  unfold loadOutputs
  simp only [alike .variablesFile (by decide), alike .cssFile (by decide),
    alike .scssDirectory (by decide), alike .tailwindDirectory (by decide)]

theorem value?_alike (alike : ∀ name, name ≠ Key.accessToken.name → env name = env' name) :
    AlikeButToken (value? env) (value? env') := by
  intro key other
  rw [value?, value?, alike key.name fun same => other (Key.name_injective same)]

theorem load_alike (alike : ∀ name, name ≠ Key.accessToken.name → env name = env' name) :
    load env' = (withToken · ((value? env' .accessToken).map Text.stripped)) <$> load env := by
  have values := value?_alike alike
  unfold load
  simp only [loadSource_alike values, loadOutputs_alike values, ← values .scssDefault (by decide),
    ← values .generators (by decide), map_bind, bind_map_left]
  refine bind_congr fun source => bind_congr fun outputs => ?_
  cases value? env .scssDefault <;> simp only [map_bind, map_pure] <;> rfl

theorem Source.render_withToken {s : Source} (given : s.accessToken.isSome = token.isSome) :
    (s.withToken token).render = s.render := by
  have shown : showOption (fun _ => redacted) token =
      showOption (fun _ => redacted) s.accessToken := by
    cases token <;> cases some : s.accessToken <;> simp_all [showOption]
  simp only [render, withToken, shown]

theorem Source.render_credentials_withToken {s : Source}
    (given : s.accessToken.isSome = token.isSome) :
    Credentials.render <$> (s.withToken token).credentials =
      Credentials.render <$> s.credentials := by
  cases token <;> cases some : s.accessToken <;> simp_all [credentials, withToken, required]
  cases s.fileId <;> rfl

theorem Source.endpoint_withToken (s : Source) (token : Option String) :
    (s.withToken token).endpoint = s.endpoint := by
  simp only [endpoint, withToken]

theorem render_withToken (given : s.source.accessToken.isSome = token.isSome) :
    (s.withToken token).render = s.render := by
  simp only [render, withToken, Source.render_withToken given]

def configure (env : String → Option String) (o : Overrides) : Except Error Settings :=
  load env >>= (override · o)

theorem configure_alike (alike : ∀ name, name ≠ Key.accessToken.name → env name = env' name)
    (o : Overrides) : configure env' o =
      (withToken · ((value? env' .accessToken).map Text.stripped)) <$> configure env o := by
  rw [configure, load_alike alike, bind_map_left, configure, map_bind]
  simp only [override_withToken]

theorem accessToken_configure (h : configure env o = .ok s) :
    s.source.accessToken = (value? env .accessToken).map Text.stripped := by
  -- A run is like itself, and what is put in the place of its token is the token of the lookup.
  have itself : ∀ name, name ≠ Key.accessToken.name → env name = env name := fun _ _ => rfl
  have same := configure_alike itself o
  rw [h] at same
  exact congrArg (·.source.accessToken) (Except.ok.inj same)

theorem value?_of_inked {key : Key} {value : String} (given : env key.name = some value)
    (ink : Text.allBlank value = false) : value? env key = some value := by
  simp [value?, given, ink]

/-- Two environments that differ in their tokens only lead to the same error, or to settings
    that differ in their tokens only and are shown alike, with the same endpoint. -/
theorem configure_secret (o : Overrides) {secret secret' : String}
    (alike : ∀ name, name ≠ Key.accessToken.name → env name = env' name)
    (given : env Key.accessToken.name = some secret) (ink : Text.allBlank secret = false)
    (given' : env' Key.accessToken.name = some secret') (ink' : Text.allBlank secret' = false) :
    (∃ e, configure env o = .error e ∧ configure env' o = .error e) ∨
      ∃ s s', configure env o = .ok s ∧ configure env' o = .ok s' ∧
        s.source.accessToken = some (Text.stripped secret) ∧
        s' = s.withToken (some (Text.stripped secret')) ∧
        s'.source.endpoint = s.source.endpoint ∧ s'.render = s.render ∧
        s'.source.render = s.source.render ∧
        Credentials.render <$> s'.source.credentials =
          Credentials.render <$> s.source.credentials := by
  have second := configure_alike alike o
  rw [value?_of_inked given' ink', Option.map_some] at second
  cases first : configure env o with
  | error e =>
    rw [first] at second
    exact .inl ⟨e, rfl, second⟩
  | ok s =>
    rw [first] at second
    have token := accessToken_configure first
    rw [value?_of_inked given ink, Option.map_some] at token
    have both : s.source.accessToken.isSome = (some (Text.stripped secret')).isSome := by
      simp [token]
    exact .inr ⟨s, _, rfl, second, token, rfl, s.source.endpoint_withToken _,
      render_withToken both, Source.render_withToken both,
      Source.render_credentials_withToken both⟩

def guarded (secret : String) (name : String) : Option String :=
  if name = Key.accessToken.name then some secret
  else [("FIGMA_FILE_ID", " <redacted> "), ("TOKENPRESS_GENERATORS", "css")].lookup name

def moved : Overrides where
  variablesFile := some ⟨"tokens.json"⟩
  cssFile := none
  scssDirectory := none
  tailwindDirectory := none
  generators := some [.scss]
  scssDefault := none

theorem guarded_secret :
    (∀ name, name ≠ Key.accessToken.name → guarded "<redacted>" name = guarded "\tsecret" name) ∧
      ∃ s, configure (guarded "<redacted>") moved = .ok s ∧
        configure (guarded "\tsecret") moved = .ok (s.withToken (some "secret")) ∧
        (s.withToken (some "secret")).render = s.render := by
  have alike : ∀ name, name ≠ Key.accessToken.name →
      guarded "<redacted>" name = guarded "\tsecret" name := by
    intro name other
    rw [guarded, guarded, if_neg other, if_neg other]
  refine ⟨alike, ?_⟩
  have loaded : (configure (guarded "<redacted>") moved).isOk = true := by decide +kernel
  rcases configure_secret moved alike rfl (by decide) rfl (by decide) with
    ⟨e, failed, -⟩ | ⟨s, s', first, second, -, rfl, -, shown, -⟩
  · rw [failed] at loaded
    cases loaded
  · exact ⟨s, first, second, shown⟩

end DesignTokens.Settings
