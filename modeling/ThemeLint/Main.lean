import ThemeLint.StartUp

set_option autoImplicit false

def main : IO Unit := do
  let executable ← IO.appPath
  let r := ThemeLint.Registry.ofClasses []
  let (_, started) := r.startUp executable.toString [] (pure ())
  for (level, text) in started.records do
    IO.eprintln s!"{level.text} {text}"
