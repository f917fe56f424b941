namespace IrListing.Cli.Help

def program : String := "
  irlens: LLVM IR post-processor.

  Filters compiler-emitted LLVM IR and annotates each instruction with the
  source location recorded in its debug metadata.

  Quick Start:
    clang -S -emit-llvm -g foo.c -o - | irlens view --debug-calls --directives
    irlens view foo.ll --json
    irlens detect foo.ll

Options:
  --version      Show the version and exit.
  -v, --verbose  Enable debug logging
  --help         Show this message and exit.

Commands:
  detect  Report whether FILE looks like LLVM IR carrying debug info.
  view    Process an LLVM IR file (or stdin with '-').
"

def view : String := "
  Process an LLVM IR file (or stdin with '-').

  Flags that are not given fall back to `default_filters` in the config.

Options:
  -d, --debug-calls / --no-debug-calls
                                  Drop llvm.dbg.* intrinsic calls
  --directives / --no-directives  Drop metadata declarations and module
                                  directives
  --comments / --no-comments      Drop comment-only lines
  --demangle / --no-demangle      Demangle symbol names with the configured
                                  demangler
  --max-lines INTEGER RANGE       Output line cap (default from config, 5000)
                                  [x>=1]
  -c, --config FILE               Config file (default: .irlens/config.yaml)
  --no-source                     Hide source location annotations
  --json                          Output as JSON
  --help                          Show this message and exit.
"

def detect : String := "
  Report whether FILE looks like LLVM IR carrying debug info.

  Exits with status 0 when it does and 1 when it does not.

Options:
  --json  Output as JSON
  --help  Show this message and exit.
"

end IrListing.Cli.Help
