import CiVariables.Text.Blank

/-!
# Emoji by name

The names that stand for an emoji between two colons: the short names of the Unicode character
database with underscores for blanks, and common nicknames. A person or a part of a body also has
names with a tone of skin, whose modifier follows the first character. A name may end in `-emoji` or
`-text`, which selects how the emoji is drawn.
-/

namespace CiVariables.Terminal.Emoji

open CiVariables.Text (isSpacing)

/-- The names and what they stand for, in parts. A star follows those that come in tones of skin. -/
def parts : List String := [
  "
  +1=👍 -1=👎 100=💯 1234=🔢 1st_place_medal=🥇 2nd_place_medal=🥈 3rd_place_medal=🥉 8ball=🎱 __1=👎 a=🅰
  a_button_(blood_type)=🅰 ab=🆎 ab_button_(blood_type)=🆎 abacus=🧮 abc=🔤 abcd=🔡 accept=🉑
  adhesive_bandage=🩹 admission_tickets=🎟 adult=🧑* aerial_tramway=🚡 afghanistan=🇦🇫 airplane=✈
  airplane_arrival=🛬 airplane_arriving=🛬 airplane_departure=🛫 alarm_clock=⏰ albania=🇦🇱 alembic=⚗
  algeria=🇩🇿 alien=👽 alien_monster=👾 ambulance=🚑 american_football=🏈 american_samoa=🇦🇸 amphora=🏺
  anchor=⚓ andorra=🇦🇩 angel=👼 anger=💢 anger_symbol=💢 angola=🇦🇴 angry=😠 angry_face=😠
  angry_face_with_horns=👿 anguilla=🇦🇮 anguished=😧 anguished_face=😧 ant=🐜 antarctica=🇦🇶
  antenna_bars=📶 antigua_&_barbuda=🇦🇬 anxious_face_with_sweat=😰 apple=🍎 aquarius=♒ argentina=🇦🇷
  aries=♈ armenia=🇦🇲 arrow_backward=◀ arrow_double_down=⏬ arrow_double_up=⏫ arrow_down=⬇
  arrow_down_small=🔽 arrow_forward=▶ arrow_heading_down=⤵ arrow_heading_up=⤴ arrow_left=⬅",
  "
  arrow_lower_left=↙ arrow_lower_right=↘ arrow_right=➡ arrow_right_hook=↪ arrow_up=⬆
  arrow_up_down=↕ arrow_up_small=🔼 arrow_upper_left=↖ arrow_upper_right=↗ arrows_clockwise=🔃
  arrows_counterclockwise=🔄 art=🎨 articulated_lorry=🚛 artist_palette=🎨 aruba=🇦🇼 ascension_island=🇦🇨
  astonished=😲 astonished_face=😲 athletic_shoe=👟 atm=🏧 atm_sign=🏧 atom_symbol=⚛ australia=🇦🇺
  austria=🇦🇹 auto_rickshaw=🛺 automobile=🚗 avocado=🥑 axe=🪓 azerbaijan=🇦🇿 b=🅱 b_button_(blood_type)=🅱
  baby=👶* baby_angel=👼* baby_bottle=🍼 baby_chick=🐤 baby_symbol=🚼 back=🔙 back_arrow=🔙
  backhand_index_pointing_down=👇* backhand_index_pointing_left=👈* backhand_index_pointing_right=👉*
  backhand_index_pointing_up=👆* bacon=🥓 badger=🦡 badminton=🏸 badminton_racquet_and_shuttlecock=🏸
  bagel=🥯 baggage_claim=🛄 baguette_bread=🥖 bahamas=🇧🇸 bahrain=🇧🇭 balance_scale=⚖ bald=🦲
  bald_man=👨‍🦲 bald_woman=👩‍🦲 ballet_shoes=🩰 balloon=🎈 ballot_box_with_ballot=🗳",
  "
  ballot_box_with_check=☑ bamboo=🎍 banana=🍌 bangbang=‼ bangladesh=🇧🇩 banjo=🪕 bank=🏦 bar_chart=📊
  barbados=🇧🇧 barber=💈 barber_pole=💈 baseball=⚾ basket=🧺 basketball=🏀 bat=🦇 bath=🛀 bathtub=🛁
  battery=🔋 beach_with_umbrella=🏖 beaming_face_with_smiling_eyes=😁 bear=🐻 bear_face=🐻
  bearded_person=🧔* beating_heart=💓 bed=🛏 bee=🐝 beer=🍺 beer_mug=🍺 beers=🍻 beetle=🐞 beginner=🔰
  belarus=🇧🇾 belgium=🇧🇪 belize=🇧🇿 bell=🔔 bell_with_slash=🔕 bellhop_bell=🛎 benin=🇧🇯 bento=🍱
  bento_box=🍱 bermuda=🇧🇲 beverage_box=🧃 bhutan=🇧🇹 bicycle=🚲 bicyclist=🚴 bike=🚲 bikini=👙
  billed_cap=🧢 biohazard=☣ biohazard_sign=☣ bird=🐦 birthday=🎂 birthday_cake=🎂 black_circle=⚫
  black_circle_for_record=⏺ black_flag=🏴 black_heart=🖤 black_joker=🃏 black_large_square=⬛
  black_left__pointing_double_triangle_with_vertical_bar=⏮ black_medium-small_square=◾
  black_medium_small_square=◾ black_medium_square=◼ black_nib=✒",
  "
  black_right__pointing_double_triangle_with_vertical_bar=⏭
  black_right__pointing_triangle_with_double_vertical_bar=⏯ black_small_square=▪
  black_square_button=🔲 black_square_for_stop=⏹ blond-haired_man=👱‍♂️* blond-haired_person=👱*
  blond-haired_woman=👱‍♀️* blossom=🌼 blowfish=🐡 blue_book=📘 blue_car=🚙 blue_circle=🔵 blue_heart=💙
  blue_square=🟦 blush=😊 boar=🐗 boat=⛵ bolivia=🇧🇴 bomb=💣 bone=🦴 book=📖 bookmark=🔖 bookmark_tabs=📑
  books=📚 boom=💥 boot=👢 bosnia_&_herzegovina=🇧🇦 botswana=🇧🇼 bottle_with_popping_cork=🍾 bouquet=💐
  bouvet_island=🇧🇻 bow=🙇 bow_and_arrow=🏹 bowl_with_spoon=🥣 bowling=🎳 boxing_glove=🥊 boy=👦* brain=🧠
  brazil=🇧🇷 bread=🍞 breast-feeding=🤱* brick=🧱 bride_with_veil=👰* bridge_at_night=🌉 briefcase=💼
  briefs=🩲 bright_button=🔆 british_indian_ocean_territory=🇮🇴 british_virgin_islands=🇻🇬 broccoli=🥦
  broken_heart=💔 broom=🧹 brown_circle=🟤 brown_heart=🤎 brown_square=🟫 brunei=🇧🇳 bug=🐛",
  "
  building_construction=🏗 bulb=💡 bulgaria=🇧🇬 bullet_train=🚅 bullettrain_front=🚅 bullettrain_side=🚄
  burkina_faso=🇧🇫 burrito=🌯 burundi=🇧🇮 bus=🚌 bus_stop=🚏 busstop=🚏 bust_in_silhouette=👤
  busts_in_silhouette=👥 butter=🧈 butterfly=🦋 cactus=🌵 cake=🍰 calendar=📆 call_me_hand=🤙* calling=📲
  cambodia=🇰🇭 camel=🐫 camera=📷 camera_with_flash=📸 cameroon=🇨🇲 camping=🏕 canada=🇨🇦
  canary_islands=🇮🇨 cancer=♋ candle=🕯 candy=🍬 canned_food=🥫 canoe=🛶 cape_verde=🇨🇻 capital_abcd=🔠
  capricorn=♑ car=🚗 card_file_box=🗃 card_index=📇 card_index_dividers=🗂 caribbean_netherlands=🇧🇶
  carousel_horse=🎠 carp_streamer=🎏 carrot=🥕 castle=🏰 cat=🐱 cat2=🐈 cat_face=🐱
  cat_face_with_tears_of_joy=😹 cat_face_with_wry_smile=😼 cayman_islands=🇰🇾 cd=💿
  central_african_republic=🇨🇫 ceuta_&_melilla=🇪🇦 chad=🇹🇩 chains=⛓ chair=🪑 chart=💹
  chart_decreasing=📉 chart_increasing=📈 chart_increasing_with_yen=💹 chart_with_downwards_trend=📉",
  "
  chart_with_upwards_trend=📈 checkered_flag=🏁 cheese_wedge=🧀 chequered_flag=🏁 cherries=🍒
  cherry_blossom=🌸 chess_pawn=♟ chestnut=🌰 chicken=🐔 child=🧒* children_crossing=🚸 chile=🇨🇱 china=🇨🇳
  chipmunk=🐿 chocolate_bar=🍫 chopsticks=🥢 christmas_island=🇨🇽 christmas_tree=🎄 church=⛪ cigarette=🚬
  cinema=🎦 circled_m=Ⓜ circus_tent=🎪 city_sunrise=🌇 city_sunset=🌆 cityscape=🏙 cityscape_at_dusk=🌆
  cl=🆑 cl_button=🆑 clamp=🗜 clap=👏 clapper=🎬 clapper_board=🎬 clapping_hands=👏* classical_building=🏛
  clinking_beer_mugs=🍻 clinking_glasses=🥂 clipboard=📋 clipperton_island=🇨🇵 clock1=🕐 clock10=🕙
  clock1030=🕥 clock11=🕚 clock1130=🕦 clock12=🕛 clock1230=🕧 clock130=🕜 clock2=🕑 clock230=🕝 clock3=🕒
  clock330=🕞 clock4=🕓 clock430=🕟 clock5=🕔 clock530=🕠 clock6=🕕 clock630=🕡 clock7=🕖 clock730=🕢
  clock8=🕗 clock830=🕣 clock9=🕘 clock930=🕤 clockwise_vertical_arrows=🔃 closed_book=📕
  closed_lock_with_key=🔐 closed_mailbox_with_lowered_flag=📪 closed_mailbox_with_raised_flag=📫",
  "
  closed_umbrella=🌂 cloud=☁ cloud_with_lightning=🌩 cloud_with_lightning_and_rain=⛈
  cloud_with_rain=🌧 cloud_with_snow=🌨 cloud_with_tornado=🌪 clown_face=🤡 club_suit=♣ clubs=♣
  clutch_bag=👝 coat=🧥 cocktail=🍸 cocktail_glass=🍸 coconut=🥥 cocos_(keeling)_islands=🇨🇨 coffee=☕
  coffin=⚰ cold_face=🥶 cold_sweat=😰 collision=💥 colombia=🇨🇴 comet=☄ comoros=🇰🇲 compass=🧭
  compression=🗜 computer=💻 computer_disk=💽 computer_mouse=🖱 confetti_ball=🎊 confounded=😖
  confounded_face=😖 confused=😕 confused_face=😕 congo_-_brazzaville=🇨🇬 congo_-_kinshasa=🇨🇩
  congratulations=㊗ construction=🚧 construction_worker=👷* control_knobs=🎛 convenience_store=🏪
  cook_islands=🇨🇰 cooked_rice=🍚 cookie=🍪 cooking=🍳 cool=🆒 cool_button=🆒 cop=👮 copyright=© corn=🌽
  costa_rica=🇨🇷 couch_and_lamp=🛋 counterclockwise_arrows_button=🔄 couple=👫 couple_with_heart=💑
  couple_with_heart_man_man=👨‍❤️‍👨 couple_with_heart_woman_man=👩‍❤️‍👨",
  "
  couple_with_heart_woman_woman=👩‍❤️‍👩 couplekiss=💏 cow=🐮 cow2=🐄 cow_face=🐮 cowboy_hat_face=🤠
  crab=🦀 crayon=🖍 credit_card=💳 crescent_moon=🌙 cricket=🦗 cricket_bat_and_ball=🏏 cricket_game=🏏
  croatia=🇭🇷 crocodile=🐊 croissant=🥐 cross_mark=❌ cross_mark_button=❎ crossed_fingers=🤞*
  crossed_flags=🎌 crossed_swords=⚔ crown=👑 cry=😢 crying_cat_face=😿 crying_face=😢 crystal_ball=🔮
  cuba=🇨🇺 cucumber=🥒 cup_with_straw=🥤 cupcake=🧁 cupid=💘 curaçao=🇨🇼 curling_stone=🥌
  curly-haired_man=👨‍🦱 curly-haired_woman=👩‍🦱 curly_hair=🦱 curly_loop=➰ currency_exchange=💱 curry=🍛
  curry_rice=🍛 custard=🍮 customs=🛃 cut_of_meat=🥩 cyclone=🌀 cyprus=🇨🇾 czechia=🇨🇿 côte_d’ivoire=🇨🇮
  dagger=🗡 dagger_knife=🗡 dancer=💃 dancers=👯 dango=🍡 dark_skin_tone=🏿 dark_sunglasses=🕶 dart=🎯
  dash=💨 dashing_away=💨 date=📅 deaf_person=🧏 deciduous_tree=🌳 deer=🦌 delivery_truck=🚚 denmark=🇩🇰
  department_store=🏬 derelict_house=🏚 derelict_house_building=🏚 desert=🏜 desert_island=🏝",
  "
  desktop_computer=🖥 detective=🕵* diamond_shape_with_a_dot_inside=💠 diamond_suit=♦
  diamond_with_a_dot=💠 diamonds=♦ diego_garcia=🇩🇬 dim_button=🔅 direct_hit=🎯 disappointed=😞
  disappointed_face=😞 disappointed_relieved=😥 diving_mask=🤿 diya_lamp=🪔 dizzy=💫 dizzy_face=😵
  djibouti=🇩🇯 dna=🧬 do_not_litter=🚯 dog=🐶 dog2=🐕 dog_face=🐶 dollar=💵 dollar_banknote=💵 dolls=🎎
  dolphin=🐬 dominica=🇩🇲 dominican_republic=🇩🇴 door=🚪 dotted_six-pointed_star=🔯 double_curly_loop=➿
  double_exclamation_mark=‼ double_vertical_bar=⏸ doughnut=🍩 dove=🕊 dove_of_peace=🕊
  down-left_arrow=↙ down-right_arrow=↘ down_arrow=⬇ downcast_face_with_sweat=😓 downwards_button=🔽
  dragon=🐉 dragon_face=🐲 dress=👗 dromedary_camel=🐪 drooling_face=🤤 drop_of_blood=🩸 droplet=💧 drum=🥁
  duck=🦆 dumpling=🥟 dvd=📀 e-mail=📧 e__mail=📧 eagle=🦅 ear=👂* ear_of_corn=🌽 ear_of_rice=🌾
  ear_with_hearing_aid=🦻 earth_africa=🌍 earth_americas=🌎 earth_asia=🌏 ecuador=🇪🇨 egg=🍳 eggplant=🍆",
  "
  egypt=🇪🇬 eight=8️⃣ eight-pointed_star=✴ eight-spoked_asterisk=✳ eight-thirty=🕣 eight_o’clock=🕗
  eight_pointed_black_star=✴ eight_spoked_asterisk=✳ eject_button=⏏ eject_symbol=⏏ el_salvador=🇸🇻
  electric_plug=🔌 elephant=🐘 eleven-thirty=🕦 eleven_o’clock=🕚 elf=🧝* email=✉
  emoji_modifier_fitzpatrick_type__1__2=🏻 emoji_modifier_fitzpatrick_type__3=🏼
  emoji_modifier_fitzpatrick_type__4=🏽 emoji_modifier_fitzpatrick_type__5=🏾
  emoji_modifier_fitzpatrick_type__6=🏿 end=🔚 end_arrow=🔚 england=🏴󠁧󠁢󠁥󠁮󠁧󠁿 envelope=✉
  envelope_with_arrow=📩 equatorial_guinea=🇬🇶 eritrea=🇪🇷 estonia=🇪🇪 ethiopia=🇪🇹 euro=💶
  euro_banknote=💶 european_castle=🏰 european_post_office=🏤 european_union=🇪🇺 evergreen_tree=🌲 ewe=🐑
  exclamation=❗ exclamation_mark=❗ exclamation_question_mark=⁉ exploding_head=🤯 expressionless=😑
  expressionless_face=😑 eye=👁 eye_in_speech_bubble=👁️‍🗨️ eyeglasses=👓 eyes=👀 face_blowing_a_kiss=😘",
  "
  face_savoring_food=😋 face_screaming_in_fear=😱 face_vomiting=🤮 face_with_hand_over_mouth=🤭
  face_with_head-bandage=🤕 face_with_head__bandage=🤕 face_with_medical_mask=😷 face_with_monocle=🧐
  face_with_open_mouth=😮 face_with_raised_eyebrow=🤨 face_with_rolling_eyes=🙄
  face_with_steam_from_nose=😤 face_with_symbols_on_mouth=🤬 face_with_tears_of_joy=😂
  face_with_thermometer=🤒 face_with_tongue=😛 face_without_mouth=😶 facepunch=👊 factory=🏭 fairy=🧚*
  falafel=🧆 falkland_islands=🇫🇰 fallen_leaf=🍂 family=👪 family_man_boy=👨‍👦 family_man_boy_boy=👨‍👦‍👦
  family_man_girl=👨‍👧 family_man_girl_boy=👨‍👧‍👦 family_man_girl_girl=👨‍👧‍👧 family_man_man_boy=👨‍👨‍👦
  family_man_man_boy_boy=👨‍👨‍👦‍👦 family_man_man_girl=👨‍👨‍👧 family_man_man_girl_boy=👨‍👨‍👧‍👦
  family_man_man_girl_girl=👨‍👨‍👧‍👧 family_man_woman_boy=👨‍👩‍👦 family_man_woman_boy_boy=👨‍👩‍👦‍👦
  family_man_woman_girl=👨‍👩‍👧 family_man_woman_girl_boy=👨‍👩‍👧‍👦 family_man_woman_girl_girl=👨‍👩‍👧‍👧",
  "
  family_woman_boy=👩‍👦 family_woman_boy_boy=👩‍👦‍👦 family_woman_girl=👩‍👧 family_woman_girl_boy=👩‍👧‍👦
  family_woman_girl_girl=👩‍👧‍👧 family_woman_woman_boy=👩‍👩‍👦 family_woman_woman_boy_boy=👩‍👩‍👦‍👦
  family_woman_woman_girl=👩‍👩‍👧 family_woman_woman_girl_boy=👩‍👩‍👧‍👦
  family_woman_woman_girl_girl=👩‍👩‍👧‍👧 faroe_islands=🇫🇴 fast-forward_button=⏩ fast_down_button=⏬
  fast_forward=⏩ fast_reverse_button=⏪ fast_up_button=⏫ fax=📠 fax_machine=📠 fearful=😨
  fearful_face=😨 feet=🐾 female_sign=♀ ferris_wheel=🎡 ferry=⛴ field_hockey=🏑
  field_hockey_stick_and_ball=🏑 fiji=🇫🇯 file_cabinet=🗄 file_folder=📁 film_frames=🎞 film_projector=📽
  finland=🇫🇮 fire=🔥 fire_engine=🚒 fire_extinguisher=🧯 firecracker=🧨 fireworks=🎆
  first_quarter_moon=🌓 first_quarter_moon_face=🌛 first_quarter_moon_with_face=🌛 fish=🐟 fish_cake=🍥
  fish_cake_with_swirl=🍥 fishing_pole=🎣 fishing_pole_and_fish=🎣 fist=✊ five=5️⃣ five-thirty=🕠",
  "
  five_o’clock=🕔 flag_for_afghanistan=🇦🇫 flag_for_albania=🇦🇱 flag_for_algeria=🇩🇿
  flag_for_american_samoa=🇦🇸 flag_for_andorra=🇦🇩 flag_for_angola=🇦🇴 flag_for_anguilla=🇦🇮
  flag_for_antarctica=🇦🇶 flag_for_antigua_&_barbuda=🇦🇬 flag_for_argentina=🇦🇷 flag_for_armenia=🇦🇲
  flag_for_aruba=🇦🇼 flag_for_ascension_island=🇦🇨 flag_for_australia=🇦🇺 flag_for_austria=🇦🇹
  flag_for_azerbaijan=🇦🇿 flag_for_bahamas=🇧🇸 flag_for_bahrain=🇧🇭 flag_for_bangladesh=🇧🇩
  flag_for_barbados=🇧🇧 flag_for_belarus=🇧🇾 flag_for_belgium=🇧🇪 flag_for_belize=🇧🇿 flag_for_benin=🇧🇯
  flag_for_bermuda=🇧🇲 flag_for_bhutan=🇧🇹 flag_for_bolivia=🇧🇴 flag_for_bosnia_&_herzegovina=🇧🇦
  flag_for_botswana=🇧🇼 flag_for_bouvet_island=🇧🇻 flag_for_brazil=🇧🇷
  flag_for_british_indian_ocean_territory=🇮🇴 flag_for_british_virgin_islands=🇻🇬 flag_for_brunei=🇧🇳
  flag_for_bulgaria=🇧🇬 flag_for_burkina_faso=🇧🇫 flag_for_burundi=🇧🇮 flag_for_cambodia=🇰🇭",
  "
  flag_for_cameroon=🇨🇲 flag_for_canada=🇨🇦 flag_for_canary_islands=🇮🇨 flag_for_cape_verde=🇨🇻
  flag_for_caribbean_netherlands=🇧🇶 flag_for_cayman_islands=🇰🇾 flag_for_central_african_republic=🇨🇫
  flag_for_ceuta_&_melilla=🇪🇦 flag_for_chad=🇹🇩 flag_for_chile=🇨🇱 flag_for_china=🇨🇳
  flag_for_christmas_island=🇨🇽 flag_for_clipperton_island=🇨🇵 flag_for_cocos__islands=🇨🇨
  flag_for_colombia=🇨🇴 flag_for_comoros=🇰🇲 flag_for_congo____brazzaville=🇨🇬
  flag_for_congo____kinshasa=🇨🇩 flag_for_cook_islands=🇨🇰 flag_for_costa_rica=🇨🇷 flag_for_croatia=🇭🇷
  flag_for_cuba=🇨🇺 flag_for_curaçao=🇨🇼 flag_for_cyprus=🇨🇾 flag_for_czech_republic=🇨🇿
  flag_for_côte_d’ivoire=🇨🇮 flag_for_denmark=🇩🇰 flag_for_diego_garcia=🇩🇬 flag_for_djibouti=🇩🇯
  flag_for_dominica=🇩🇲 flag_for_dominican_republic=🇩🇴 flag_for_ecuador=🇪🇨 flag_for_egypt=🇪🇬
  flag_for_el_salvador=🇸🇻 flag_for_equatorial_guinea=🇬🇶 flag_for_eritrea=🇪🇷 flag_for_estonia=🇪🇪",
  "
  flag_for_ethiopia=🇪🇹 flag_for_european_union=🇪🇺 flag_for_falkland_islands=🇫🇰
  flag_for_faroe_islands=🇫🇴 flag_for_fiji=🇫🇯 flag_for_finland=🇫🇮 flag_for_france=🇫🇷
  flag_for_french_guiana=🇬🇫 flag_for_french_polynesia=🇵🇫 flag_for_french_southern_territories=🇹🇫
  flag_for_gabon=🇬🇦 flag_for_gambia=🇬🇲 flag_for_georgia=🇬🇪 flag_for_germany=🇩🇪 flag_for_ghana=🇬🇭
  flag_for_gibraltar=🇬🇮 flag_for_greece=🇬🇷 flag_for_greenland=🇬🇱 flag_for_grenada=🇬🇩
  flag_for_guadeloupe=🇬🇵 flag_for_guam=🇬🇺 flag_for_guatemala=🇬🇹 flag_for_guernsey=🇬🇬
  flag_for_guinea=🇬🇳 flag_for_guinea__bissau=🇬🇼 flag_for_guyana=🇬🇾 flag_for_haiti=🇭🇹
  flag_for_heard_&_mcdonald_islands=🇭🇲 flag_for_honduras=🇭🇳 flag_for_hong_kong=🇭🇰
  flag_for_hungary=🇭🇺 flag_for_iceland=🇮🇸 flag_for_india=🇮🇳 flag_for_indonesia=🇮🇩 flag_for_iran=🇮🇷
  flag_for_iraq=🇮🇶 flag_for_ireland=🇮🇪 flag_for_isle_of_man=🇮🇲 flag_for_israel=🇮🇱
  flag_for_italy=🇮🇹",
  "
  flag_for_jamaica=🇯🇲 flag_for_japan=🇯🇵 flag_for_jersey=🇯🇪 flag_for_jordan=🇯🇴
  flag_for_kazakhstan=🇰🇿 flag_for_kenya=🇰🇪 flag_for_kiribati=🇰🇮 flag_for_kosovo=🇽🇰
  flag_for_kuwait=🇰🇼 flag_for_kyrgyzstan=🇰🇬 flag_for_laos=🇱🇦 flag_for_latvia=🇱🇻 flag_for_lebanon=🇱🇧
  flag_for_lesotho=🇱🇸 flag_for_liberia=🇱🇷 flag_for_libya=🇱🇾 flag_for_liechtenstein=🇱🇮
  flag_for_lithuania=🇱🇹 flag_for_luxembourg=🇱🇺 flag_for_macau=🇲🇴 flag_for_macedonia=🇲🇰
  flag_for_madagascar=🇲🇬 flag_for_malawi=🇲🇼 flag_for_malaysia=🇲🇾 flag_for_maldives=🇲🇻
  flag_for_mali=🇲🇱 flag_for_malta=🇲🇹 flag_for_marshall_islands=🇲🇭 flag_for_martinique=🇲🇶
  flag_for_mauritania=🇲🇷 flag_for_mauritius=🇲🇺 flag_for_mayotte=🇾🇹 flag_for_mexico=🇲🇽
  flag_for_micronesia=🇫🇲 flag_for_moldova=🇲🇩 flag_for_monaco=🇲🇨 flag_for_mongolia=🇲🇳
  flag_for_montenegro=🇲🇪 flag_for_montserrat=🇲🇸 flag_for_morocco=🇲🇦 flag_for_mozambique=🇲🇿",
  "
  flag_for_myanmar=🇲🇲 flag_for_namibia=🇳🇦 flag_for_nauru=🇳🇷 flag_for_nepal=🇳🇵
  flag_for_netherlands=🇳🇱 flag_for_new_caledonia=🇳🇨 flag_for_new_zealand=🇳🇿 flag_for_nicaragua=🇳🇮
  flag_for_niger=🇳🇪 flag_for_nigeria=🇳🇬 flag_for_niue=🇳🇺 flag_for_norfolk_island=🇳🇫
  flag_for_north_korea=🇰🇵 flag_for_northern_mariana_islands=🇲🇵 flag_for_norway=🇳🇴 flag_for_oman=🇴🇲
  flag_for_pakistan=🇵🇰 flag_for_palau=🇵🇼 flag_for_palestinian_territories=🇵🇸 flag_for_panama=🇵🇦
  flag_for_papua_new_guinea=🇵🇬 flag_for_paraguay=🇵🇾 flag_for_peru=🇵🇪 flag_for_philippines=🇵🇭
  flag_for_pitcairn_islands=🇵🇳 flag_for_poland=🇵🇱 flag_for_portugal=🇵🇹 flag_for_puerto_rico=🇵🇷
  flag_for_qatar=🇶🇦 flag_for_romania=🇷🇴 flag_for_russia=🇷🇺 flag_for_rwanda=🇷🇼 flag_for_réunion=🇷🇪
  flag_for_samoa=🇼🇸 flag_for_san_marino=🇸🇲 flag_for_saudi_arabia=🇸🇦 flag_for_senegal=🇸🇳
  flag_for_serbia=🇷🇸 flag_for_seychelles=🇸🇨 flag_for_sierra_leone=🇸🇱 flag_for_singapore=🇸🇬",
  "
  flag_for_sint_maarten=🇸🇽 flag_for_slovakia=🇸🇰 flag_for_slovenia=🇸🇮 flag_for_solomon_islands=🇸🇧
  flag_for_somalia=🇸🇴 flag_for_south_africa=🇿🇦 flag_for_south_georgia_&_south_sandwich_islands=🇬🇸
  flag_for_south_korea=🇰🇷 flag_for_south_sudan=🇸🇸 flag_for_spain=🇪🇸 flag_for_sri_lanka=🇱🇰
  flag_for_st._barthélemy=🇧🇱 flag_for_st._helena=🇸🇭 flag_for_st._kitts_&_nevis=🇰🇳
  flag_for_st._lucia=🇱🇨 flag_for_st._martin=🇲🇫 flag_for_st._pierre_&_miquelon=🇵🇲
  flag_for_st._vincent_&_grenadines=🇻🇨 flag_for_sudan=🇸🇩 flag_for_suriname=🇸🇷
  flag_for_svalbard_&_jan_mayen=🇸🇯 flag_for_swaziland=🇸🇿 flag_for_sweden=🇸🇪 flag_for_switzerland=🇨🇭
  flag_for_syria=🇸🇾 flag_for_são_tomé_&_príncipe=🇸🇹 flag_for_taiwan=🇹🇼 flag_for_tajikistan=🇹🇯
  flag_for_tanzania=🇹🇿 flag_for_thailand=🇹🇭 flag_for_timor__leste=🇹🇱 flag_for_togo=🇹🇬
  flag_for_tokelau=🇹🇰 flag_for_tonga=🇹🇴 flag_for_trinidad_&_tobago=🇹🇹 flag_for_tristan_da_cunha=🇹🇦",
  "
  flag_for_tunisia=🇹🇳 flag_for_turkey=🇹🇷 flag_for_turkmenistan=🇹🇲
  flag_for_turks_&_caicos_islands=🇹🇨 flag_for_tuvalu=🇹🇻 flag_for_u.s._outlying_islands=🇺🇲
  flag_for_u.s._virgin_islands=🇻🇮 flag_for_uganda=🇺🇬 flag_for_ukraine=🇺🇦
  flag_for_united_arab_emirates=🇦🇪 flag_for_united_kingdom=🇬🇧 flag_for_united_states=🇺🇸
  flag_for_uruguay=🇺🇾 flag_for_uzbekistan=🇺🇿 flag_for_vanuatu=🇻🇺 flag_for_vatican_city=🇻🇦
  flag_for_venezuela=🇻🇪 flag_for_vietnam=🇻🇳 flag_for_wallis_&_futuna=🇼🇫 flag_for_western_sahara=🇪🇭
  flag_for_yemen=🇾🇪 flag_for_zambia=🇿🇲 flag_for_zimbabwe=🇿🇼 flag_for_åland_islands=🇦🇽
  flag_in_hole=⛳ flags=🎏 flamingo=🦩 flashlight=🔦 flat_shoe=🥿 fleur-de-lis=⚜ fleur__de__lis=⚜
  flexed_biceps=💪* flipper=🐬 floppy_disk=💾 flower_playing_cards=🎴 flushed=😳 flushed_face=😳
  flying_disc=🥏 flying_saucer=🛸 fog=🌫 foggy=🌁 folded_hands=🙏* foot=🦶 football=🏈 footprints=👣",
  "
  fork_and_knife=🍴 fork_and_knife_with_plate=🍽 fortune_cookie=🥠 fountain=⛲ fountain_pen=🖋 four=4️⃣
  four-thirty=🕟 four_leaf_clover=🍀 four_o’clock=🕓 fox_face=🦊 frame_with_picture=🖼 framed_picture=🖼
  france=🇫🇷 free=🆓 free_button=🆓 french_fries=🍟 french_guiana=🇬🇫 french_polynesia=🇵🇫
  french_southern_territories=🇹🇫 fried_shrimp=🍤 fries=🍟 frog=🐸 frog_face=🐸
  front-facing_baby_chick=🐥 frowning=😦 frowning_face=☹ frowning_face_with_open_mouth=😦 fuel_pump=⛽
  fuelpump=⛽ full_moon=🌕 full_moon_face=🌝 full_moon_with_face=🌝 funeral_urn=⚱ gabon=🇬🇦 gambia=🇬🇲
  game_die=🎲 garlic=🧄 gear=⚙ gem=💎 gem_stone=💎 gemini=♊ genie=🧞 georgia=🇬🇪 germany=🇩🇪 ghana=🇬🇭
  ghost=👻 gibraltar=🇬🇮 gift=🎁 gift_heart=💝 giraffe=🦒 girl=👧* glass_of_milk=🥛 glasses=👓
  globe_showing_americas=🌎 globe_showing_asia-australia=🌏 globe_showing_europe-africa=🌍
  globe_with_meridians=🌐 gloves=🧤 glowing_star=🌟 goal_net=🥅 goat=🐐 goblin=👺 goggles=🥽 golf=⛳",
  "
  golfer=🏌 gorilla=🦍 graduation_cap=🎓 grapes=🍇 greece=🇬🇷 green_apple=🍏 green_book=📗 green_circle=🟢
  green_heart=💚 green_salad=🥗 green_square=🟩 greenland=🇬🇱 grenada=🇬🇩 grey_exclamation=❕
  grey_question=❔ grimacing=😬 grimacing_face=😬 grin=😁 grinning=😀 grinning_cat_face=😺
  grinning_cat_face_with_smiling_eyes=😸 grinning_face=😀 grinning_face_with_big_eyes=😃
  grinning_face_with_smiling_eyes=😄 grinning_face_with_sweat=😅 grinning_squinting_face=😆
  growing_heart=💗 guadeloupe=🇬🇵 guam=🇬🇺 guard=💂* guardsman=💂 guatemala=🇬🇹 guernsey=🇬🇬 guide_dog=🦮
  guinea=🇬🇳 guinea-bissau=🇬🇼 guitar=🎸 gun=🔫 guyana=🇬🇾 haircut=💇 haiti=🇭🇹 hamburger=🍔 hammer=🔨
  hammer_and_pick=⚒ hammer_and_wrench=🛠 hamster=🐹 hamster_face=🐹 hand=✋
  hand_with_fingers_splayed=🖐* handbag=👜 handshake=🤝 hankey=💩 hatched_chick=🐥 hatching_chick=🐣
  headphone=🎧 headphones=🎧 hear-no-evil_monkey=🙉 hear_no_evil=🙉 heard_&_mcdonald_islands=🇭🇲
  heart=❤",
  "
  heart_decoration=💟 heart_eyes=😍 heart_eyes_cat=😻 heart_suit=♥ heart_with_arrow=💘
  heart_with_ribbon=💝 heartbeat=💓 heartpulse=💗 hearts=♥ heavy_check_mark=✔ heavy_division_sign=➗
  heavy_dollar_sign=💲 heavy_exclamation_mark=❗ heavy_heart_exclamation=❣
  heavy_heart_exclamation_mark_ornament=❣ heavy_large_circle=⭕ heavy_minus_sign=➖
  heavy_multiplication_x=✖ heavy_plus_sign=➕ hedgehog=🦔 helicopter=🚁 helm_symbol=⎈
  helmet_with_white_cross=⛑ herb=🌿 hibiscus=🌺 high-heeled_shoe=👠 high-speed_train=🚄
  high_brightness=🔆 high_heel=👠 high_voltage=⚡ hiking_boot=🥾 hindu_temple=🛕 hippopotamus=🦛 hocho=🔪
  hole=🕳 honduras=🇭🇳 honey_pot=🍯 honeybee=🐝 hong_kong_sar_china=🇭🇰 horizontal_traffic_light=🚥
  horse=🐴 horse_face=🐴 horse_racing=🏇* hospital=🏥 hot_beverage=☕ hot_dog=🌭 hot_face=🥵 hot_pepper=🌶
  hot_springs=♨ hotel=🏨 hotsprings=♨ hourglass=⌛ hourglass_done=⌛ hourglass_flowing_sand=⏳",
  "
  hourglass_not_done=⏳ house=🏠 house_buildings=🏘 house_with_garden=🏡 houses=🏘 hugging_face=🤗
  hundred_points=💯 hungary=🇭🇺 hushed=😯 hushed_face=😯 ice=🧊 ice_cream=🍨 ice_hockey=🏒
  ice_hockey_stick_and_puck=🏒 ice_skate=⛸ icecream=🍦 iceland=🇮🇸 id=🆔 id_button=🆔
  ideograph_advantage=🉐 imp=👿 inbox_tray=📥 incoming_envelope=📨 index_pointing_up=☝* india=🇮🇳
  indonesia=🇮🇩 infinity=♾ information=ℹ information_desk_person=💁 information_source=ℹ innocent=😇
  input_latin_letters=🔤 input_latin_lowercase=🔡 input_latin_uppercase=🔠 input_numbers=🔢
  input_symbols=🔣 interrobang=⁉ iphone=📱 iran=🇮🇷 iraq=🇮🇶 ireland=🇮🇪 isle_of_man=🇮🇲 israel=🇮🇱
  italy=🇮🇹 izakaya_lantern=🏮 jack-o-lantern=🎃 jack_o_lantern=🎃 jamaica=🇯🇲 japan=🗾
  japanese_acceptable_button=🉑 japanese_application_button=🈸 japanese_bargain_button=🉐
  japanese_castle=🏯 japanese_congratulations_button=㊗ japanese_discount_button=🈹 japanese_dolls=🎎",
  "
  japanese_free_of_charge_button=🈚 japanese_goblin=👺 japanese_here_button=🈁
  japanese_monthly_amount_button=🈷 japanese_no_vacancy_button=🈵
  japanese_not_free_of_charge_button=🈶 japanese_ogre=👹 japanese_open_for_business_button=🈺
  japanese_passing_grade_button=🈴 japanese_post_office=🏣 japanese_prohibited_button=🈲
  japanese_reserved_button=🈯 japanese_secret_button=㊙ japanese_service_charge_button=🈂
  japanese_symbol_for_beginner=🔰 japanese_vacancy_button=🈳 jeans=👖 jersey=🇯🇪 jigsaw=🧩 joker=🃏
  jordan=🇯🇴 joy=😂 joy_cat=😹 joystick=🕹 kaaba=🕋 kangaroo=🦘 kazakhstan=🇰🇿 kenya=🇰🇪 key=🔑 keyboard=⌨
  keycap_#=#️⃣ keycap_*=*️⃣ keycap_0=0️⃣ keycap_1=1️⃣ keycap_10=🔟 keycap_2=2️⃣ keycap_3=3️⃣
  keycap_4=4️⃣ keycap_5=5️⃣ keycap_6=6️⃣ keycap_7=7️⃣ keycap_8=8️⃣ keycap_9=9️⃣ keycap_asterisk=*⃣
  keycap_digit_eight=8⃣ keycap_digit_five=5⃣ keycap_digit_four=4⃣ keycap_digit_nine=9⃣",
  "
  keycap_digit_one=1⃣ keycap_digit_seven=7⃣ keycap_digit_six=6⃣ keycap_digit_three=3⃣
  keycap_digit_two=2⃣ keycap_digit_zero=0⃣ keycap_number_sign=#⃣ kick_scooter=🛴 kimono=👘
  kiribati=🇰🇮 kiss=💋 kiss_man_man=👨‍❤️‍💋‍👨 kiss_mark=💋 kiss_woman_man=👩‍❤️‍💋‍👨
  kiss_woman_woman=👩‍❤️‍💋‍👩 kissing=😗 kissing_cat=😽 kissing_cat_face=😽 kissing_closed_eyes=😚
  kissing_face=😗 kissing_face_with_closed_eyes=😚 kissing_face_with_smiling_eyes=😙 kissing_heart=😘
  kissing_smiling_eyes=😙 kitchen_knife=🔪 kite=🪁 kiwi_fruit=🥝 knife=🔪 koala=🐨 koko=🈁 kosovo=🇽🇰
  kuwait=🇰🇼 kyrgyzstan=🇰🇬 lab_coat=🥼 label=🏷 lacrosse=🥍 lady_beetle=🐞 lantern=🏮 laos=🇱🇦
  laptop_computer=💻 large_blue_circle=🔵 large_blue_diamond=🔷 large_orange_diamond=🔶
  last_quarter_moon=🌗 last_quarter_moon_face=🌜 last_quarter_moon_with_face=🌜 last_track_button=⏮
  latin_cross=✝ latvia=🇱🇻 laughing=😆 leaf_fluttering_in_wind=🍃 leafy_green=🥬 leaves=🍃 lebanon=🇱🇧",
  "
  ledger=📒 left-facing_fist=🤛* left-right_arrow=↔ left_arrow=⬅ left_arrow_curving_right=↪
  left_luggage=🛅 left_right_arrow=↔ left_speech_bubble=🗨 leftwards_arrow_with_hook=↩ leg=🦵 lemon=🍋
  leo=♌ leopard=🐆 lesotho=🇱🇸 level_slider=🎚 liberia=🇱🇷 libra=♎ libya=🇱🇾 liechtenstein=🇱🇮
  light_bulb=💡 light_rail=🚈 light_skin_tone=🏻 link=🔗 linked_paperclips=🖇 lion_face=🦁 lips=👄
  lipstick=💄 lithuania=🇱🇹 litter_in_bin_sign=🚮 lizard=🦎 llama=🦙 lobster=🦞 lock=🔒
  lock_with_ink_pen=🔏 locked=🔒 locked_with_key=🔐 locked_with_pen=🔏 locomotive=🚂 lollipop=🍭 loop=➿
  lotion_bottle=🧴 loud_sound=🔊 loudly_crying_face=😭 loudspeaker=📢 love-you_gesture=🤟* love_hotel=🏩
  love_letter=💌 low_brightness=🔅 lower_left_ballpoint_pen=🖊 lower_left_crayon=🖍
  lower_left_fountain_pen=🖋 lower_left_paintbrush=🖌 luggage=🧳 luxembourg=🇱🇺 lying_face=🤥 m=Ⓜ
  macau_sar_china=🇲🇴 macedonia=🇲🇰 madagascar=🇲🇬 mag=🔍 mag_right=🔎 mage=🧙* magnet=🧲",
  "
  magnifying_glass_tilted_left=🔍 magnifying_glass_tilted_right=🔎 mahjong=🀄 mahjong_red_dragon=🀄
  mailbox=📫 mailbox_closed=📪 mailbox_with_mail=📬 mailbox_with_no_mail=📭 malawi=🇲🇼 malaysia=🇲🇾
  maldives=🇲🇻 male_sign=♂ mali=🇲🇱 malta=🇲🇹 man=👨* man_and_woman_holding_hands=👫 man_artist=👨‍🎨*
  man_astronaut=👨‍🚀* man_biking=🚴‍♂️* man_bouncing_ball=⛹️‍♂️* man_bowing=🙇‍♂️*
  man_cartwheeling=🤸‍♂️* man_climbing=🧗‍♂️* man_construction_worker=👷‍♂️* man_cook=👨‍🍳*
  man_dancing=🕺* man_detective=🕵️‍♂️* man_elf=🧝‍♂️* man_facepalming=🤦‍♂️* man_factory_worker=👨‍🏭*
  man_fairy=🧚‍♂️* man_farmer=👨‍🌾* man_firefighter=👨‍🚒* man_frowning=🙍‍♂️* man_genie=🧞‍♂️
  man_gesturing_no=🙅‍♂️* man_gesturing_ok=🙆‍♂️* man_getting_haircut=💇‍♂️* man_getting_massage=💆‍♂️*
  man_golfing=🏌️‍♂️* man_guard=💂‍♂️* man_health_worker=👨‍⚕️* man_in_business_suit_levitating=🕴
  man_in_lotus_position=🧘‍♂️* man_in_manual_wheelchair=👨‍🦽 man_in_motorized_wheelchair=👨‍🦼",
  "
  man_in_steamy_room=🧖‍♂️* man_in_suit_levitating=🕴* man_in_tuxedo=🤵* man_judge=👨‍⚖️*
  man_juggling=🤹‍♂️* man_lifting_weights=🏋️‍♂️* man_mage=🧙‍♂️* man_mechanic=👨‍🔧*
  man_mountain_biking=🚵‍♂️* man_office_worker=👨‍💼* man_pilot=👨‍✈️* man_playing_handball=🤾‍♂️*
  man_playing_water_polo=🤽‍♂️* man_police_officer=👮‍♂️* man_pouting=🙎‍♂️* man_raising_hand=🙋‍♂️*
  man_rowing_boat=🚣‍♂️* man_running=🏃‍♂️* man_scientist=👨‍🔬* man_shrugging=🤷‍♂️* man_singer=👨‍🎤*
  man_student=👨‍🎓* man_surfing=🏄‍♂️* man_swimming=🏊‍♂️* man_teacher=👨‍🏫* man_technologist=👨‍💻*
  man_tipping_hand=💁‍♂️* man_vampire=🧛‍♂️* man_walking=🚶‍♂️* man_wearing_turban=👳‍♂️*
  man_with_chinese_cap=👲* man_with_gua_pi_mao=👲 man_with_probing_cane=👨‍🦯 man_with_turban=👳
  man_zombie=🧟‍♂️ mango=🥭 mans_shoe=👞 mantelpiece_clock=🕰 manual_wheelchair=🦽 man’s_shoe=👞
  map_of_japan=🗾 maple_leaf=🍁 marshall_islands=🇲🇭 martial_arts_uniform=🥋 martinique=🇲🇶 mask=😷",
  "
  massage=💆 mate=🧉 mauritania=🇲🇷 mauritius=🇲🇺 mayotte=🇾🇹 meat_on_bone=🍖 mechanical_arm=🦾
  mechanical_leg=🦿 medical_symbol=⚕ medium_dark_skin_tone=🏾 medium_light_skin_tone=🏼
  medium_skin_tone=🏽 mega=📣 megaphone=📣 melon=🍈 memo=📝 men_with_bunny_ears=👯‍♂️ men_wrestling=🤼‍♂️
  menorah=🕎 menorah_with_nine_branches=🕎 mens=🚹 men’s_room=🚹 mermaid=🧜‍♀️* merman=🧜‍♂️*
  merperson=🧜* metro=🚇 mexico=🇲🇽 microbe=🦠 micronesia=🇫🇲 microphone=🎤 microscope=🔬 middle_finger=🖕*
  military_medal=🎖 milky_way=🌌 minibus=🚐 minidisc=💽 moai=🗿 mobile_phone=📱 mobile_phone_off=📴
  mobile_phone_with_arrow=📲 moldova=🇲🇩 monaco=🇲🇨 money-mouth_face=🤑 money__mouth_face=🤑 money_bag=💰
  money_with_wings=💸 moneybag=💰 mongolia=🇲🇳 monkey=🐒 monkey_face=🐵 monorail=🚝 montenegro=🇲🇪
  montserrat=🇲🇸 moon=🌔 moon_cake=🥮 moon_viewing_ceremony=🎑 morocco=🇲🇦 mortar_board=🎓 mosque=🕌
  mosquito=🦟 motor_boat=🛥 motor_scooter=🛵 motorcycle=🏍 motorized_wheelchair=🦼 motorway=🛣",
  "
  mount_fuji=🗻 mountain=⛰ mountain_bicyclist=🚵 mountain_cableway=🚠 mountain_railway=🚞 mouse=🐭
  mouse2=🐁 mouse_face=🐭 mouth=👄 movie_camera=🎥 moyai=🗿 mozambique=🇲🇿 mrs._claus=🤶* muscle=💪
  mushroom=🍄 musical_keyboard=🎹 musical_note=🎵 musical_notes=🎶 musical_score=🎼 mute=🔇
  muted_speaker=🔇 myanmar_(burma)=🇲🇲 nail_care=💅 nail_polish=💅* name_badge=📛 namibia=🇳🇦
  national_park=🏞 nauru=🇳🇷 nauseated_face=🤢 nazar_amulet=🧿 necktie=👔 negative_squared_cross_mark=❎
  nepal=🇳🇵 nerd_face=🤓 netherlands=🇳🇱 neutral_face=😐 new=🆕 new_button=🆕 new_caledonia=🇳🇨 new_moon=🌑
  new_moon_face=🌚 new_moon_with_face=🌚 new_zealand=🇳🇿 newspaper=📰 next_track_button=⏭ ng=🆖
  ng_button=🆖 nicaragua=🇳🇮 niger=🇳🇪 nigeria=🇳🇬 night_with_stars=🌃 nine=9️⃣ nine-thirty=🕤
  nine_o’clock=🕘 niue=🇳🇺 no_bell=🔕 no_bicycles=🚳 no_entry=⛔ no_entry_sign=🚫 no_good=🙅
  no_littering=🚯 no_mobile_phones=📵 no_mouth=😶 no_one_under_eighteen=🔞 no_pedestrians=🚷",
  "
  no_smoking=🚭 non-potable_water=🚱 non__potable_water=🚱 norfolk_island=🇳🇫 north_korea=🇰🇵
  northern_mariana_islands=🇲🇵 norway=🇳🇴 nose=👃* notebook=📓 notebook_with_decorative_cover=📔 notes=🎶
  nut_and_bolt=🔩 o=⭕ o2=🅾 o_button_(blood_type)=🅾 ocean=🌊 octopus=🐙 oden=🍢 office=🏢
  office_building=🏢 ogre=👹 oil_drum=🛢 ok=🆗 ok_button=🆗 ok_hand=👌* ok_woman=🙆 old_key=🗝 old_man=👴*
  old_woman=👵* older_adult=🧓* older_man=👴 older_woman=👵 om=🕉 om_symbol=🕉 oman=🇴🇲 on=🔛 on!_arrow=🔛
  oncoming_automobile=🚘 oncoming_bus=🚍 oncoming_fist=👊* oncoming_police_car=🚔 oncoming_taxi=🚖
  one=1️⃣ one-piece_swimsuit=🩱 one-thirty=🕜 one_o’clock=🕐 onion=🧅 open_book=📖 open_file_folder=📂
  open_hands=👐* open_mailbox_with_lowered_flag=📭 open_mailbox_with_raised_flag=📬 open_mouth=😮
  ophiuchus=⛎ optical_disk=💿 orange_book=📙 orange_circle=🟠 orange_heart=🧡 orange_square=🟧
  orangutan=🦧 orthodox_cross=☦ otter=🦦 outbox_tray=📤 owl=🦉 ox=🐂 oyster=🦪 p_button=🅿 package=📦",
  "
  page_facing_up=📄 page_with_curl=📃 pager=📟 paintbrush=🖌 pakistan=🇵🇰 palau=🇵🇼
  palestinian_territories=🇵🇸 palm_tree=🌴 palms_up_together=🤲* panama=🇵🇦 pancakes=🥞 panda_face=🐼
  paperclip=📎 papua_new_guinea=🇵🇬 paraguay=🇵🇾 parking=🅿 parrot=🦜 part_alternation_mark=〽
  partly_sunny=⛅ party_popper=🎉 partying_face=🥳 passenger_ship=🛳 passport_control=🛂 pause_button=⏸
  paw_prints=🐾 peace_symbol=☮ peach=🍑 peacock=🦚 peanuts=🥜 pear=🍐 pen=🖊 pencil=📝 pencil2=✏ penguin=🐧
  pensive=😔 pensive_face=😔 people_holding_hands=🧑‍🤝‍🧑 people_with_bunny_ears=👯 people_wrestling=🤼
  performing_arts=🎭 persevere=😣 persevering_face=😣 person_biking=🚴* person_bouncing_ball=⛹*
  person_bowing=🙇* person_cartwheeling=🤸* person_climbing=🧗* person_facepalming=🤦* person_fencing=🤺
  person_frowning=🙍* person_gesturing_no=🙅* person_gesturing_ok=🙆* person_getting_haircut=💇*
  person_getting_massage=💆* person_golfing=🏌* person_in_bed=🛌* person_in_lotus_position=🧘*",
  "
  person_in_steamy_room=🧖* person_juggling=🤹* person_kneeling=🧎 person_lifting_weights=🏋*
  person_mountain_biking=🚵* person_playing_handball=🤾* person_playing_water_polo=🤽*
  person_pouting=🙎* person_raising_hand=🙋* person_rowing_boat=🚣* person_running=🏃*
  person_shrugging=🤷* person_standing=🧍 person_surfing=🏄* person_swimming=🏊* person_taking_bath=🛀*
  person_tipping_hand=💁* person_walking=🚶* person_wearing_turban=👳* person_with_ball=⛹
  person_with_blond_hair=👱 person_with_pouting_face=🙎 peru=🇵🇪 petri_dish=🧫 philippines=🇵🇭 phone=☎
  pick=⛏ pie=🥧 pig=🐷 pig2=🐖 pig_face=🐷 pig_nose=🐽 pile_of_poo=💩 pill=💊 pinching_hand=🤏
  pine_decoration=🎍 pineapple=🍍 ping_pong=🏓 pirate_flag=🏴‍☠️ pisces=♓ pistol=🔫 pitcairn_islands=🇵🇳
  pizza=🍕 place_of_worship=🛐 play_button=▶ play_or_pause_button=⏯ pleading_face=🥺 point_down=👇
  point_left=👈 point_right=👉 point_up=☝ point_up_2=👆 poland=🇵🇱 police_car=🚓 police_car_light=🚨",
  "
  police_officer=👮* poodle=🐩 pool_8_ball=🎱 poop=💩 popcorn=🍿 portugal=🇵🇹 post_office=🏣 postal_horn=📯
  postbox=📮 pot_of_food=🍲 potable_water=🚰 potato=🥔 pouch=👝 poultry_leg=🍗 pound=💷 pound_banknote=💷
  pouting_cat=😾 pouting_cat_face=😾 pouting_face=😡 pray=🙏 prayer_beads=📿 pregnant_woman=🤰* pretzel=🥨
  prince=🤴* princess=👸* printer=🖨 probing_cane=🦯 prohibited=🚫 puerto_rico=🇵🇷 punch=👊
  purple_circle=🟣 purple_heart=💜 purple_square=🟪 purse=👛 pushpin=📌 put_litter_in_its_place=🚮
  qatar=🇶🇦 question=❓ question_mark=❓ rabbit=🐰 rabbit2=🐇 rabbit_face=🐰 raccoon=🦝 racehorse=🐎
  racing_car=🏎 racing_motorcycle=🏍 radio=📻 radio_button=🔘 radioactive=☢ radioactive_sign=☢ rage=😡
  railway_car=🚃 railway_track=🛤 rainbow=🌈 rainbow_flag=🏳️‍🌈 raised_back_of_hand=🤚* raised_fist=✊*
  raised_hand=✋* raised_hand_with_fingers_splayed=🖐
  raised_hand_with_part_between_middle_and_ring_fingers=🖖 raised_hands=🙌 raising_hand=🙋",
  "
  raising_hands=🙌* ram=🐏 ramen=🍜 rat=🐀 razor=🪒 receipt=🧾 record_button=⏺ recycle=♻
  recycling_symbol=♻ red-haired_man=👨‍🦰 red-haired_woman=👩‍🦰 red_apple=🍎 red_car=🚗 red_circle=🔴
  red_envelope=🧧 red_hair=🦰 red_heart=❤ red_paper_lantern=🏮 red_square=🟥
  red_triangle_pointed_down=🔻 red_triangle_pointed_up=🔺 regional_indicator_a=🇦
  regional_indicator_b=🇧 regional_indicator_c=🇨 regional_indicator_d=🇩 regional_indicator_e=🇪
  regional_indicator_f=🇫 regional_indicator_g=🇬 regional_indicator_h=🇭 regional_indicator_i=🇮
  regional_indicator_j=🇯 regional_indicator_k=🇰 regional_indicator_l=🇱 regional_indicator_m=🇲
  regional_indicator_n=🇳 regional_indicator_o=🇴 regional_indicator_p=🇵 regional_indicator_q=🇶
  regional_indicator_r=🇷 regional_indicator_s=🇸 regional_indicator_symbol_letter_a=🇦
  regional_indicator_symbol_letter_b=🇧 regional_indicator_symbol_letter_c=🇨",
  "
  regional_indicator_symbol_letter_d=🇩 regional_indicator_symbol_letter_e=🇪
  regional_indicator_symbol_letter_f=🇫 regional_indicator_symbol_letter_g=🇬
  regional_indicator_symbol_letter_h=🇭 regional_indicator_symbol_letter_i=🇮
  regional_indicator_symbol_letter_j=🇯 regional_indicator_symbol_letter_k=🇰
  regional_indicator_symbol_letter_l=🇱 regional_indicator_symbol_letter_m=🇲
  regional_indicator_symbol_letter_n=🇳 regional_indicator_symbol_letter_o=🇴
  regional_indicator_symbol_letter_p=🇵 regional_indicator_symbol_letter_q=🇶
  regional_indicator_symbol_letter_r=🇷 regional_indicator_symbol_letter_s=🇸
  regional_indicator_symbol_letter_t=🇹 regional_indicator_symbol_letter_u=🇺
  regional_indicator_symbol_letter_v=🇻 regional_indicator_symbol_letter_w=🇼",
  "
  regional_indicator_symbol_letter_x=🇽 regional_indicator_symbol_letter_y=🇾
  regional_indicator_symbol_letter_z=🇿 regional_indicator_t=🇹 regional_indicator_u=🇺
  regional_indicator_v=🇻 regional_indicator_w=🇼 regional_indicator_x=🇽 regional_indicator_y=🇾
  regional_indicator_z=🇿 registered=® relaxed=☺ relieved=😌 relieved_face=😌 reminder_ribbon=🎗
  repeat=🔁 repeat_button=🔁 repeat_one=🔂 repeat_single_button=🔂 rescue_worker’s_helmet=⛑ restroom=🚻
  reverse_button=◀ reversed_hand_with_middle_finger_extended=🖕 revolving_hearts=💞 rewind=⏪
  rhinoceros=🦏 ribbon=🎀 rice=🍚 rice_ball=🍙 rice_cracker=🍘 rice_scene=🎑 right-facing_fist=🤜*
  right_anger_bubble=🗯 right_arrow=➡ right_arrow_curving_down=⤵ right_arrow_curving_left=↩
  right_arrow_curving_up=⤴ ring=💍 ringed_planet=🪐 roasted_sweet_potato=🍠 robot=🤖 robot_face=🤖
  rocket=🚀 roll_of_paper=🧻 rolled-up_newspaper=🗞 rolled__up_newspaper=🗞 roller_coaster=🎢",
  "
  rolling_on_the_floor_laughing=🤣 romania=🇷🇴 rooster=🐓 rose=🌹 rosette=🏵 rotating_light=🚨
  round_pushpin=📍 rowboat=🚣 rugby_football=🏉 runner=🏃 running=🏃 running_shirt=🎽
  running_shirt_with_sash=🎽 running_shoe=👟 russia=🇷🇺 rwanda=🇷🇼 réunion=🇷🇪 sa=🈂
  sad_but_relieved_face=😥 safety_pin=🧷 safety_vest=🦺 sagittarius=♐ sailboat=⛵ sake=🍶 salt=🧂
  samoa=🇼🇸 san_marino=🇸🇲 sandal=👡 sandwich=🥪 santa=🎅 santa_claus=🎅* sari=🥻 satellite=📡
  satellite_antenna=📡 satisfied=😆 saudi_arabia=🇸🇦 sauropod=🦕 saxophone=🎷 scales=⚖ scarf=🧣 school=🏫
  school_backpack=🎒 school_satchel=🎒 scissors=✂ scorpio=♏ scorpion=🦂 scorpius=♏ scotland=🏴󠁧󠁢󠁳󠁣󠁴󠁿
  scream=😱 scream_cat=🙀 scroll=📜 seat=💺 secret=㊙ see-no-evil_monkey=🙈 see_no_evil=🙈 seedling=🌱
  selfie=🤳* senegal=🇸🇳 serbia=🇷🇸 service_dog=🐕‍🦺 seven=7️⃣ seven-thirty=🕢 seven_o’clock=🕖
  seychelles=🇸🇨 shallow_pan_of_food=🥘 shamrock=☘ shark=🦈 shaved_ice=🍧 sheaf_of_rice=🌾 sheep=🐑",
  "
  shell=🐚 shield=🛡 shinto_shrine=⛩ ship=🚢 shirt=👕 shit=💩 shoe=👞 shooting_star=🌠 shopping_bags=🛍
  shopping_cart=🛒 shortcake=🍰 shorts=🩳 shower=🚿 shrimp=🦐 shuffle_tracks_button=🔀 shushing_face=🤫
  sierra_leone=🇸🇱 sign_of_the_horns=🤘* signal_strength=📶 singapore=🇸🇬 sint_maarten=🇸🇽 six=6️⃣
  six-thirty=🕡 six_o’clock=🕕 six_pointed_star=🔯 skateboard=🛹 ski=🎿 skier=⛷ skis=🎿 skull=💀
  skull_and_crossbones=☠ skunk=🦨 sled=🛷 sleeping=😴 sleeping_accommodation=🛌 sleeping_face=😴
  sleepy=😪 sleepy_face=😪 sleuth_or_spy=🕵 slightly_frowning_face=🙁 slightly_smiling_face=🙂
  slot_machine=🎰 sloth=🦥 slovakia=🇸🇰 slovenia=🇸🇮 small_airplane=🛩 small_blue_diamond=🔹
  small_orange_diamond=🔸 small_red_triangle=🔺 small_red_triangle_down=🔻 smile=😄 smile_cat=😸
  smiley=😃 smiley_cat=😺 smiling_cat_face_with_heart-eyes=😻 smiling_face=☺
  smiling_face_with_3_hearts=🥰 smiling_face_with_halo=😇 smiling_face_with_heart-eyes=😍",
  "
  smiling_face_with_horns=😈 smiling_face_with_smiling_eyes=😊 smiling_face_with_sunglasses=😎
  smiling_imp=😈 smirk=😏 smirk_cat=😼 smirking_face=😏 smoking=🚬 snail=🐌 snake=🐍 sneezing_face=🤧
  snow-capped_mountain=🏔 snow_capped_mountain=🏔 snowboarder=🏂* snowflake=❄ snowman=☃
  snowman_without_snow=⛄ soap=🧼 sob=😭 soccer=⚽ soccer_ball=⚽ socks=🧦 soft_ice_cream=🍦 softball=🥎
  solomon_islands=🇸🇧 somalia=🇸🇴 soon=🔜 soon_arrow=🔜 sos=🆘 sos_button=🆘 sound=🔉 south_africa=🇿🇦
  south_georgia_&_south_sandwich_islands=🇬🇸 south_korea=🇰🇷 south_sudan=🇸🇸 space_invader=👾
  spade_suit=♠ spades=♠ spaghetti=🍝 spain=🇪🇸 sparkle=❇ sparkler=🎇 sparkles=✨ sparkling_heart=💖
  speak-no-evil_monkey=🙊 speak_no_evil=🙊 speaker=🔈 speaker_high_volume=🔊 speaker_low_volume=🔈
  speaker_medium_volume=🔉 speaking_head=🗣 speaking_head_in_silhouette=🗣 speech_balloon=💬
  speedboat=🚤 spider=🕷 spider_web=🕸 spiral_calendar=🗓 spiral_calendar_pad=🗓 spiral_note_pad=🗒",
  "
  spiral_notepad=🗒 spiral_shell=🐚 sponge=🧽 spoon=🥄 sport_utility_vehicle=🚙 sports_medal=🏅
  spouting_whale=🐳 squid=🦑 squinting_face_with_tongue=😝 sri_lanka=🇱🇰 st._barthélemy=🇧🇱
  st._helena=🇸🇭 st._kitts_&_nevis=🇰🇳 st._lucia=🇱🇨 st._martin=🇲🇫 st._pierre_&_miquelon=🇵🇲
  st._vincent_&_grenadines=🇻🇨 stadium=🏟 star=⭐ star-struck=🤩 star2=🌟 star_and_crescent=☪
  star_of_david=✡ stars=🌠 station=🚉 statue_of_liberty=🗽 steam_locomotive=🚂 steaming_bowl=🍜
  stethoscope=🩺 stew=🍲 stop_button=⏹ stop_sign=🛑 stopwatch=⏱ straight_ruler=📏 strawberry=🍓
  stuck_out_tongue=😛 stuck_out_tongue_closed_eyes=😝 stuck_out_tongue_winking_eye=😜
  studio_microphone=🎙 stuffed_flatbread=🥙 sudan=🇸🇩 sun=☀ sun_behind_cloud=⛅
  sun_behind_large_cloud=🌥 sun_behind_rain_cloud=🌦 sun_behind_small_cloud=🌤 sun_with_face=🌞
  sunflower=🌻 sunglasses=😎 sunny=☀ sunrise=🌅 sunrise_over_mountains=🌄 sunset=🌇 superhero=🦸",
  "
  supervillain=🦹 surfer=🏄 suriname=🇸🇷 sushi=🍣 suspension_railway=🚟 svalbard_&_jan_mayen=🇸🇯 swan=🦢
  swaziland=🇸🇿 sweat=😓 sweat_droplets=💦 sweat_drops=💦 sweat_smile=😅 sweden=🇸🇪 sweet_potato=🍠
  swimmer=🏊 switzerland=🇨🇭 symbols=🔣 synagogue=🕍 syria=🇸🇾 syringe=💉 são_tomé_&_príncipe=🇸🇹 t-rex=🦖
  t-shirt=👕 table_tennis_paddle_and_ball=🏓 taco=🌮 tada=🎉 taiwan=🇹🇼 tajikistan=🇹🇯 takeout_box=🥡
  tanabata_tree=🎋 tangerine=🍊 tanzania=🇹🇿 taurus=♉ taxi=🚕 tea=🍵 teacup_without_handle=🍵
  tear-off_calendar=📆 teddy_bear=🧸 telephone=☎ telephone_receiver=📞 telescope=🔭 television=📺 ten=🔟
  ten-thirty=🕥 ten_o’clock=🕙 tennis=🎾 tent=⛺ test_tube=🧪 thailand=🇹🇭 thermometer=🌡 thinking_face=🤔
  thought_balloon=💭 thread=🧵 three=3️⃣ three-thirty=🕞 three_button_mouse=🖱 three_o’clock=🕒
  thumbs_down=👎* thumbs_up=👍* thumbsdown=👎 thumbsup=👍 thunder_cloud_and_rain=⛈ ticket=🎫 tiger=🐯
  tiger2=🐅 tiger_face=🐯 timer_clock=⏲ timor-leste=🇹🇱 tired_face=😫 tm=™ togo=🇹🇬 toilet=🚽 tokelau=🇹🇰",
  "
  tokyo_tower=🗼 tomato=🍅 tonga=🇹🇴 tongue=👅 toolbox=🧰 tooth=🦷 top=🔝 top_arrow=🔝 top_hat=🎩 tophat=🎩
  tornado=🌪 trackball=🖲 tractor=🚜 trade_mark=™ traffic_light=🚥 train=🚋 train2=🚆 tram=🚊 tram_car=🚋
  triangular_flag=🚩 triangular_flag_on_post=🚩 triangular_ruler=📐 trident=🔱 trident_emblem=🔱
  trinidad_&_tobago=🇹🇹 tristan_da_cunha=🇹🇦 triumph=😤 trolleybus=🚎 trophy=🏆 tropical_drink=🍹
  tropical_fish=🐠 truck=🚚 trumpet=🎺 tshirt=👕 tulip=🌷 tumbler_glass=🥃 tunisia=🇹🇳 turkey=🦃
  turkmenistan=🇹🇲 turks_&_caicos_islands=🇹🇨 turtle=🐢 tuvalu=🇹🇻 tv=📺 twelve-thirty=🕧
  twelve_o’clock=🕛 twisted_rightwards_arrows=🔀 two=2️⃣ two-hump_camel=🐫 two-thirty=🕝 two_hearts=💕
  two_men_holding_hands=👬 two_o’clock=🕑 two_women_holding_hands=👭 u.s._outlying_islands=🇺🇲
  u.s._virgin_islands=🇻🇮 u5272=🈹 u5408=🈴 u55b6=🈺 u6307=🈯 u6708=🈷 u6709=🈶 u6e80=🈵 u7121=🈚 u7533=🈸
  u7981=🈲 u7a7a=🈳 uganda=🇺🇬 ukraine=🇺🇦 umbrella=☂ umbrella_on_ground=⛱ umbrella_with_rain_drops=☔",
  "
  unamused=😒 unamused_face=😒 underage=🔞 unicorn_face=🦄 united_arab_emirates=🇦🇪 united_kingdom=🇬🇧
  united_nations=🇺🇳 united_states=🇺🇸 unlock=🔓 unlocked=🔓 up=🆙 up!_button=🆙 up-down_arrow=↕
  up-left_arrow=↖ up-right_arrow=↗ up_arrow=⬆ upside-down_face=🙃 upside__down_face=🙃
  upwards_button=🔼 uruguay=🇺🇾 uzbekistan=🇺🇿 v=✌ vampire=🧛* vanuatu=🇻🇺 vatican_city=🇻🇦 venezuela=🇻🇪
  vertical_traffic_light=🚦 vhs=📼 vibration_mode=📳 victory_hand=✌* video_camera=📹 video_game=🎮
  videocassette=📼 vietnam=🇻🇳 violin=🎻 virgo=♍ volcano=🌋 volleyball=🏐 vs=🆚 vs_button=🆚
  vulcan_salute=🖖* waffle=🧇 wales=🏴󠁧󠁢󠁷󠁬󠁳󠁿 walking=🚶 wallis_&_futuna=🇼🇫 waning_crescent_moon=🌘
  waning_gibbous_moon=🌖 warning=⚠ wastebasket=🗑 watch=⌚ water_buffalo=🐃 water_closet=🚾 water_wave=🌊
  watermelon=🍉 wave=👋 waving_black_flag=🏴 waving_hand=👋* waving_white_flag=🏳 wavy_dash=〰
  waxing_crescent_moon=🌒 waxing_gibbous_moon=🌔 wc=🚾 weary=😩 weary_cat_face=🙀 weary_face=😩
  wedding=💒",
  "
  weight_lifter=🏋 western_sahara=🇪🇭 whale=🐳 whale2=🐋 wheel_of_dharma=☸ wheelchair=♿
  wheelchair_symbol=♿ white-haired_man=👨‍🦳 white-haired_woman=👩‍🦳 white_check_mark=✅ white_circle=⚪
  white_exclamation_mark=❕ white_flag=🏳 white_flower=💮 white_frowning_face=☹ white_hair=🦳
  white_heart=🤍 white_heavy_check_mark=✅ white_large_square=⬜ white_medium-small_square=◽
  white_medium_small_square=◽ white_medium_square=◻ white_medium_star=⭐ white_question_mark=❔
  white_small_square=▫ white_square_button=🔳 white_sun_behind_cloud=🌥
  white_sun_behind_cloud_with_rain=🌦 white_sun_with_small_cloud=🌤 wilted_flower=🥀
  wind_blowing_face=🌬 wind_chime=🎐 wind_face=🌬 wine_glass=🍷 wink=😉 winking_face=😉
  winking_face_with_tongue=😜 wolf=🐺 wolf_face=🐺 woman=👩* woman_artist=👩‍🎨* woman_astronaut=👩‍🚀*
  woman_biking=🚴‍♀️* woman_bouncing_ball=⛹️‍♀️* woman_bowing=🙇‍♀️* woman_cartwheeling=🤸‍♀️*",
  "
  woman_climbing=🧗‍♀️* woman_construction_worker=👷‍♀️* woman_cook=👩‍🍳* woman_dancing=💃*
  woman_detective=🕵️‍♀️* woman_elf=🧝‍♀️* woman_facepalming=🤦‍♀️* woman_factory_worker=👩‍🏭*
  woman_fairy=🧚‍♀️* woman_farmer=👩‍🌾* woman_firefighter=👩‍🚒* woman_frowning=🙍‍♀️* woman_genie=🧞‍♀️
  woman_gesturing_no=🙅‍♀️* woman_gesturing_ok=🙆‍♀️* woman_getting_haircut=💇‍♀️*
  woman_getting_massage=💆‍♀️* woman_golfing=🏌️‍♀️* woman_guard=💂‍♀️* woman_health_worker=👩‍⚕️*
  woman_in_lotus_position=🧘‍♀️* woman_in_manual_wheelchair=👩‍🦽 woman_in_motorized_wheelchair=👩‍🦼
  woman_in_steamy_room=🧖‍♀️* woman_judge=👩‍⚖️* woman_juggling=🤹‍♀️* woman_lifting_weights=🏋️‍♀️*
  woman_mage=🧙‍♀️* woman_mechanic=👩‍🔧* woman_mountain_biking=🚵‍♀️* woman_office_worker=👩‍💼*
  woman_pilot=👩‍✈️* woman_playing_handball=🤾‍♀️* woman_playing_water_polo=🤽‍♀️*
  woman_police_officer=👮‍♀️* woman_pouting=🙎‍♀️* woman_raising_hand=🙋‍♀️* woman_rowing_boat=🚣‍♀️*",
  "
  woman_running=🏃‍♀️* woman_scientist=👩‍🔬* woman_shrugging=🤷‍♀️* woman_singer=👩‍🎤*
  woman_student=👩‍🎓* woman_surfing=🏄‍♀️* woman_swimming=🏊‍♀️* woman_teacher=👩‍🏫*
  woman_technologist=👩‍💻* woman_tipping_hand=💁‍♀️* woman_vampire=🧛‍♀️* woman_walking=🚶‍♀️*
  woman_wearing_turban=👳‍♀️* woman_with_headscarf=🧕* woman_with_probing_cane=👩‍🦯 woman_zombie=🧟‍♀️
  womans_clothes=👚 womans_hat=👒 woman’s_boot=👢 woman’s_clothes=👚 woman’s_hat=👒 woman’s_sandal=👡
  women_with_bunny_ears=👯‍♀️ women_wrestling=🤼‍♀️ womens=🚺 women’s_room=🚺 woozy_face=🥴 world_map=🗺
  worried=😟 worried_face=😟 wrapped_gift=🎁 wrench=🔧 writing_hand=✍* x=❌ yarn=🧶 yawning_face=🥱
  yellow_circle=🟡 yellow_heart=💛 yellow_square=🟨 yemen=🇾🇪 yen=💴 yen_banknote=💴 yin_yang=☯ yo-yo=🪀
  yum=😋 zambia=🇿🇲 zany_face=🤪 zap=⚡ zebra=🦓 zero=0️⃣ zimbabwe=🇿🇼 zipper-mouth_face=🤐
  zipper__mouth_face=🤐 zombie=🧟 zzz=💤 åland_islands=🇦🇽"]

/-- The names, each with an equals sign and what it stands for after it. -/
def entries : List (List Char) := (CiVariables.Text.join "\n" parts).toList.splitOnP isSpacing

def tones : List (String × Char) :=
  [("light", Char.ofNat 0x1F3FB), ("medium-light", Char.ofNat 0x1F3FC),
    ("medium", Char.ofNat 0x1F3FD), ("medium-dark", Char.ofNat 0x1F3FE),
    ("dark", Char.ofNat 0x1F3FF)]

/-- The two ways of drawing an emoji and the characters that select them. -/
def variants : List (String × Char) :=
  [("emoji", Char.ofNat 0xFE0F), ("text", Char.ofNat 0xFE0E)]

/-- What entries say of a name: what it stands for, and whether it comes in tones of skin. -/
def entry? (entries : List (List Char)) (name : List Char) : Option (List Char × Bool) :=
  entries.findSome? fun e =>
    if e.takeWhile (· != '=') == name && !name.isEmpty then
      match (e.dropWhile (· != '=')).drop 1 with
      | [] => none
      | value =>
        if value.getLast? == some '*' then some (value.dropLast, true) else some (value, false)
    else none

/-- The part of a text before an ending. -/
def beforeEnding? (ending cs : List Char) : Option (List Char) :=
  if CiVariables.Text.startsWith cs.reverse ending.reverse then
    some (cs.take (cs.length - ending.length))
  else none

/-- An emoji in a tone of skin. Its modifier takes the place of a selector after the first
character. -/
def toned (modifier : Char) : List Char → List Char
  | [] => []
  | c :: rest => c :: modifier :: rest.dropWhile (·.toNat == 0xFE0F)

/-- The characters of an emoji by its name. -/
def ofName? (entries : List (List Char)) (name : List Char) : Option (List Char) :=
  match entry? entries name with
  | some (value, _) => some value
  | none =>
    tones.findSome? fun (tone, modifier) =>
      match beforeEnding? ("_" ++ tone ++ "_skin_tone").toList name with
      | some base =>
        match entry? entries base with
        | some (value, true) => some (toned modifier value)
        | _ => none
      | none => none

/-- The emoji that a name between colons stands for, which may end in the way of drawing it. -/
def ofCode? (entries : List (List Char)) (code : List Char) : Option (List Char) :=
  let named (name : List Char) : Option (List Char) :=
    ofName? entries (CiVariables.Text.lower (String.ofList name)).toList
  let varied := variants.findSome? fun (variant, selector) =>
    (beforeEnding? ("-" ++ variant).toList code).map fun name => (name, selector)
  match varied with
  | some (name, selector) => (named name).map (· ++ [selector])
  | none => named code

/-- The name between a colon, which is dropped already, and the next, and what is left after it. -/
def code? (cs : List Char) : Option (List Char × List Char) :=
  let code := cs.takeWhile fun c => c != ':' && !isSpacing c
  match cs.drop code.length with
  | ':' :: rest => some (code, rest)
  | _ => none

theorem length_code? {cs code rest : List Char} (h : code? cs = some (code, rest)) :
    rest.length < cs.length := by
  unfold code? at h
  simp only at h
  split at h
  · next heq =>
    cases h
    have := congrArg List.length heq
    simp at this
    omega
  · simp at h

/-- A text with the emoji of entries in the place of their names. A name that stands for none is
left as it is. -/
def replaceBy (entries : List (List Char)) : List Char → List Char
  | [] => []
  | c :: rest =>
    if c = ':' then
      match h : code? rest with
      | some (code, after) =>
        have : after.length < rest.length + 1 := Nat.lt_succ_of_lt (length_code? h)
        (match ofCode? entries code with
          | some emoji => emoji
          | none => ':' :: code ++ [':']) ++ replaceBy entries after
      | none => c :: replaceBy entries rest
    else c :: replaceBy entries rest
  termination_by cs => cs.length

def replace (cs : List Char) : List Char := replaceBy entries cs

end CiVariables.Terminal.Emoji
