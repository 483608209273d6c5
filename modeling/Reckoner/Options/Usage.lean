/-! The help of the command line, laid out for eighty columns. -/

namespace Reckoner.Options

def program : String := "calcbot"

def usage : String :=
  "usage: calcbot [-h] [-e EVAL_EXPR] [--message MESSAGE] [-j]
               [--format \x7bjson,human\x7d] [-p PRECISION] [-v]
               [--log-level \x7bDEBUG,INFO,WARNING,ERROR\x7d] [--log-file LOG_FILE]
               [--health-check]
"

def help : String :=
  usage ++ "
options:
  -h, --help            show this help message and exit
  -e EVAL_EXPR, --eval EVAL_EXPR
                        Evaluate one expression and exit (non-interactive)
  --message MESSAGE     Handle one chat message (e.g. '@calc 2+2') and print
                        the reply
  -j, --json            Emit JSON for machine parsing (deprecated, use
                        --format json)
  --format \x7bjson,human\x7d
                        Output format: json (machine-readable) or human
                        (human-readable)
  -p PRECISION, --precision PRECISION
                        Set decimal places for non-integral results
  -v, --version         Show program version
  --log-level \x7bDEBUG,INFO,WARNING,ERROR\x7d
                        Set logging level (default: CALCBOT_LOG_LEVEL or
                        WARNING)
  --log-file LOG_FILE   Write logs to file
  --health-check        Run health check and verify dependencies
"

end Reckoner.Options
