import SwapDesk.Settings.Basic

namespace SwapDesk.LogFilter

def quiet : String :=
  ",h2=info,hyper=info,hyper_util=info,reqwest=info,alloy_transport_http=info,sqlx=warn"

/-- A level is completed by the quiet components; a full specification is taken as it is. -/
def ofLevel (level : String) : String :=
  let level := Text.trim level
  if level.toList.any fun c => c == ',' || c == '=' then level else level ++ quiet

end SwapDesk.LogFilter

namespace SwapDesk.Settings

def logLevel (s : Settings) : String :=
  if s.debug then "debug" else "info"

end SwapDesk.Settings
